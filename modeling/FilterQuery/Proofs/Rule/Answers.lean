/-
# FilterQuery.Proofs.Rule.Answers -- what a compiled rule set answers

Each definition of a rule set is a rule, in order (`compile_eq_ok_iff`). What the rule set
answers can be read off the definitions, each of them on its own: to a candidate it lists the
definitions whose queries accept it, and to a record those whose queries hold of it, unless one
of them has an error.

So no rule has a say in whether another one is listed for a candidate. For a record this is
so only as long as there is no error, since the first one takes the place of the whole list.
-/
import FilterQuery.Proofs.Evaluation.FirstError
import FilterQuery.Proofs.Rule.Compilation

namespace FilterQuery.RuleSet

/-! ## Answers read off the definitions -/

section Compiled

variable {definitions : List RuleDefinition} {s : RuleSet} (h : compile definitions = .ok s)

include h

theorem rules_of_compile : s.rules = definitions.map RuleDefinition.compile := by
  rw [(compile_eq_ok_iff.mp h).2.2]

/-- The rules listed for a candidate are those of the definitions that accept it. -/
theorem matching_of_compile (candidate : Condition) :
    s.matching candidate =
      (definitions.filter fun d => (parse d.query).accepts candidate).map
        RuleDefinition.compile := by
  rw [matching, rules_of_compile h, List.filter_map]
  rfl

/-- No name is listed twice. -/
theorem nodup_matching (candidate : Condition) :
    ((s.matching candidate).map Rule.name).Nodup := by
  have hnames : (s.matching candidate).map Rule.name =
      (definitions.filter fun d => (parse d.query).accepts candidate).map
        RuleDefinition.name := by
    rw [matching_of_compile h, List.map_map]
    rfl
  rw [hnames]
  exact ((List.filter_sublist).map _).nodup (compile_eq_ok_iff.mp h).2.1

/-- **Whether a rule is listed for a candidate** is up to its own query. -/
theorem compile_mem_matching_iff {d : RuleDefinition} (hd : d ∈ definitions)
    (candidate : Condition) :
    d.compile ∈ s.matching candidate ↔ (parse d.query).accepts candidate = true := by
  rw [matching_of_compile h, List.mem_map]
  constructor
  · rintro ⟨d', hd', heq⟩
    obtain ⟨hmem, haccepts⟩ := List.mem_filter.mp hd'
    -- the names differ, so the rule is that of no other definition
    have hname : d'.name = d.name := congrArg Rule.name heq
    rw [← List.inj_on_of_nodup_map (compile_eq_ok_iff.mp h).2.1 hmem hd hname]
    exact haccepts
  · intro haccepts
    exact ⟨d, List.mem_filter.mpr ⟨hd, haccepts⟩, rfl⟩

/-- The rules that hold for a record are those of the definitions that hold of it, unless
some definition has an error. -/
theorem matchingRecord_of_compile (r : Record) :
    s.matchingRecord r =
      okUnless ((definitions.filter fun d => isTrue ((parse d.query).evaluate r)).map
        RuleDefinition.compile) (firstError (fun d => (parse d.query).evaluate r) definitions) := by
  rw [matchingRecord, keepWhere_eq_okUnless, rules_of_compile h, List.filter_map, firstError_map]
  rfl

end Compiled

/-- **What a rule set answers** is up to its definitions one by one. A candidate is always
answered, with those that accept it, in order, and no name twice; a record with those that
hold of it, in order, unless one of them has an error, in which case the first error is all
there is. A definition that two rule sets have in common is listed by both for a candidate or
by neither, whatever else they consist of and in whichever order. -/
theorem listed_of_compile {definitions : List RuleDefinition} {s : RuleSet}
    (h : compile definitions = .ok s) :
    (∀ candidate : Condition,
        s.matching candidate =
            (definitions.filter fun d => (parse d.query).accepts candidate).map
              RuleDefinition.compile ∧
          ((s.matching candidate).map Rule.name).Nodup) ∧
      (∀ r : Record, (∀ d ∈ definitions, ∃ holds, (parse d.query).evaluate r = .ok holds) →
        s.matchingRecord r =
          .ok ((definitions.filter fun d => isTrue ((parse d.query).evaluate r)).map
            RuleDefinition.compile)) ∧
      (∀ (r : Record) (before : List RuleDefinition) (d : RuleDefinition)
          (after : List RuleDefinition) (e : DataError), definitions = before ++ d :: after →
        (∀ earlier ∈ before, ∃ holds, (parse earlier.query).evaluate r = .ok holds) →
        (parse d.query).evaluate r = .error e → s.matchingRecord r = .error e) ∧
      (∀ (others : List RuleDefinition) (t : RuleSet), compile others = .ok t →
        ∀ d ∈ definitions, d ∈ others → ∀ candidate : Condition,
          (d.compile ∈ s.matching candidate ↔ d.compile ∈ t.matching candidate)) := by
  refine ⟨?_, ?_, ?_, ?_⟩
  · intro candidate
    exact ⟨matching_of_compile h candidate, nodup_matching h candidate⟩
  · intro r hok
    rw [matchingRecord_of_compile h, okUnless_eq_ok_iff]
    exact ⟨firstError_eq_none_iff.mpr hok, rfl⟩
  · intro r before d after e hsplit hbefore herror
    rw [matchingRecord_of_compile h, okUnless_eq_error_iff, firstError_eq_some_iff]
    exact ⟨before, d, after, hsplit, hbefore, herror⟩
  · intro others t ht d hd hd' candidate
    rw [compile_mem_matching_iff h hd, compile_mem_matching_iff ht hd']

/-- A rule about a qualified name. -/
def accountDefinition : RuleDefinition := ⟨"account", "first account", "account.id=1"⟩

/-- A rule about the price. -/
def priceDefinition : RuleDefinition := ⟨"price", "", "price<5"⟩

/-- A rule that never holds. -/
def emptyDefinition : RuleDefinition := ⟨"empty", "", ""⟩

/-- The rules in one order. -/
def someRules : RuleSet := ⟨[priceDefinition, accountDefinition, emptyDefinition].map (·.compile)⟩

/-- Two of them in the other order. -/
def otherRules : RuleSet := ⟨[accountDefinition, priceDefinition].map (·.compile)⟩

/-- A record with a price and without an account. -/
def pricedRecord : Record := .ofObject [("price", .number (.int 3))]

/-- A record of which the account is a number. -/
def flatRecord : Record := .ofObject [("price", .number (.int 3)), ("account", .number (.int 1))]

theorem listed_of_compile_account :
    compile [priceDefinition, accountDefinition, emptyDefinition] = .ok someRules ∧
      compile [accountDefinition, priceDefinition] = .ok otherRules ∧
      (∀ d ∈ [priceDefinition, accountDefinition, emptyDefinition],
        ∃ holds, (parse d.query).evaluate pricedRecord = .ok holds) ∧
      (parse accountDefinition.query).evaluate flatRecord = .error (.notARecord "account") ∧
      someRules.matching (parse "price=4 && account.id=2") = [priceDefinition.compile] ∧
      someRules.matchingRecord pricedRecord = .ok [priceDefinition.compile] ∧
      someRules.matchingRecord flatRecord = .error (.notARecord "account") ∧
      (accountDefinition.compile ∈ someRules.matching (parse "account.id=1") ↔
        accountDefinition.compile ∈ otherRules.matching (parse "account.id=1")) := by
  have hsome : compile [priceDefinition, accountDefinition, emptyDefinition] = .ok someRules :=
    compile_eq_ok_iff.mpr ⟨by decide, by decide, rfl⟩
  have hother : compile [accountDefinition, priceDefinition] = .ok otherRules :=
    compile_eq_ok_iff.mpr ⟨by decide, by decide, rfl⟩
  obtain ⟨hmatching, hrecord, herror, hshared⟩ := listed_of_compile hsome
  have hpriced : ∀ d ∈ [priceDefinition, accountDefinition, emptyDefinition],
      ∃ holds, (parse d.query).evaluate pricedRecord = .ok holds :=
    firstError_eq_none_iff.mp (by decide +kernel)
  have hearlier : ∀ earlier ∈ [priceDefinition],
      ∃ holds, (parse earlier.query).evaluate flatRecord = .ok holds :=
    firstError_eq_none_iff.mp (by decide +kernel)
  have hflat : (parse accountDefinition.query).evaluate flatRecord =
      .error (.notARecord "account") := by decide +kernel
  refine ⟨hsome, hother, hpriced, hflat, ?_, ?_, ?_, ?_⟩
  · rw [(hmatching _).1]
    decide +kernel
  · rw [hrecord _ hpriced]
    decide +kernel
  · exact herror flatRecord [priceDefinition] accountDefinition [emptyDefinition] _ rfl hearlier
      hflat
  · exact hshared _ _ hother accountDefinition (by simp) (by simp) _

end FilterQuery.RuleSet
