/-
# FilterQuery.Proofs.Rule.Compilation -- which definitions make a rule set

Definitions are compiled from first to last, and each of them takes its name away from those that
follow. A definition is at fault if it has no name, or one that was taken before
(`RuleDefinition.faultAfter`), and the first fault is the outcome of the whole. So compiling has
the law that filtering and evaluation have: the rules of all definitions, `okUnless` there is a
`firstFault` (`compileAfter_eq_okUnless`).

What a fault is depends on the definitions in front of it, and a definition whose name is empty
and a definition whose name is taken may come in either order. `firstFault_eq_some_iff` says at
which definition the first fault is: the definitions in front of it have names, all different.
With different names a rule is found under its own name, whatever stands before it
(`get?_eq_some_iff`).
-/
import FilterQuery.Proofs.Outcome
import FilterQuery.Rule.Basic
import Mathlib.Data.List.Nodup

namespace FilterQuery

/-! ## Faults -/

/-- **What is wrong with a definition** behind others that have taken their names. -/
def RuleDefinition.faultAfter (taken : List String) (d : RuleDefinition) : Option RuleError :=
  if d.name = "" then some .emptyName
  else if d.name ∈ taken then some (.duplicateName d.name)
  else none

theorem RuleDefinition.faultAfter_eq_none_iff {taken : List String} {d : RuleDefinition} :
    d.faultAfter taken = none ↔ d.name ≠ "" ∧ d.name ∉ taken := by
  unfold faultAfter
  split_ifs with hempty htaken
  · simp [hempty]
  · simp [htaken]
  · simp [hempty, htaken]

theorem RuleDefinition.faultAfter_eq_some_iff {taken : List String} {d : RuleDefinition}
    {e : RuleError} :
    d.faultAfter taken = some e ↔
      (d.name = "" ∧ e = .emptyName) ∨
        (d.name ≠ "" ∧ d.name ∈ taken ∧ e = .duplicateName d.name) := by
  unfold faultAfter
  split_ifs with hempty htaken
  · simp [hempty, eq_comm]
  · simp [hempty, htaken, eq_comm]
  · simp [hempty, htaken]

namespace RuleSet

/-- **The first fault** among definitions that follow others. -/
def firstFault : List String → List RuleDefinition → Option RuleError
  | _, [] => none
  | taken, d :: ds => (d.faultAfter taken).or (firstFault (d.name :: taken) ds)

/-- Behind some definitions their names are taken as well. -/
theorem firstFault_append (taken : List String) (before after : List RuleDefinition) :
    firstFault taken (before ++ after) =
      (firstFault taken before).or
        (firstFault ((before.map RuleDefinition.name).reverse ++ taken) after) := by
  induction before generalizing taken with
  | nil => simp [firstFault]
  | cons d ds ih =>
      rw [List.cons_append, firstFault, firstFault, ih, Option.or_assoc]
      simp

/-- There is no fault if the names are there, are not taken, and differ. -/
theorem firstFault_eq_none_iff {taken : List String} {definitions : List RuleDefinition} :
    firstFault taken definitions = none ↔
      (∀ d ∈ definitions, d.name ≠ "" ∧ d.name ∉ taken) ∧
        (definitions.map RuleDefinition.name).Nodup := by
  induction definitions generalizing taken with
  | nil => simp [firstFault]
  | cons d ds ih =>
      rw [firstFault, Option.or_eq_none_iff, RuleDefinition.faultAfter_eq_none_iff, ih,
        List.forall_mem_cons, List.map_cons, List.nodup_cons]
      -- the names that follow are new if they avoid the taken ones and this one
      constructor
      · rintro ⟨hd, hnames, hnodup⟩
        refine ⟨⟨hd, ?_⟩, ?_, hnodup⟩
        · intro d' hd'
          obtain ⟨hempty, hfresh⟩ := hnames d' hd'
          exact ⟨hempty, fun hmem => hfresh (List.mem_cons_of_mem _ hmem)⟩
        · intro hmem
          obtain ⟨d', hd', hname⟩ := List.mem_map.mp hmem
          exact (hnames d' hd').2 (hname ▸ List.mem_cons_self)
      · rintro ⟨⟨hd, hnames⟩, hfresh, hnodup⟩
        refine ⟨hd, ?_, hnodup⟩
        intro d' hd'
        obtain ⟨hempty, htaken⟩ := hnames d' hd'
        refine ⟨hempty, ?_⟩
        rw [List.mem_cons, not_or]
        exact ⟨fun hname => hfresh (List.mem_map.mpr ⟨d', hd', hname⟩), htaken⟩

/-- **The first fault is that of a definition before which there is none.** -/
theorem firstFault_eq_some_iff {taken : List String} {definitions : List RuleDefinition}
    {e : RuleError} :
    firstFault taken definitions = some e ↔
      ∃ before d after, definitions = before ++ d :: after ∧ firstFault taken before = none ∧
        d.faultAfter ((before.map RuleDefinition.name).reverse ++ taken) = some e := by
  constructor
  · intro hfault
    induction definitions generalizing taken with
    | nil => cases hfault
    | cons d ds ih =>
        rw [firstFault, Option.or_eq_some_iff] at hfault
        rcases hfault with hhere | ⟨hnone, hlater⟩
        · exact ⟨[], d, ds, rfl, rfl, hhere⟩
        · obtain ⟨before, d', after, rfl, hbefore, hfault⟩ := ih hlater
          refine ⟨d :: before, d', after, rfl, ?_, ?_⟩
          · rw [firstFault, hnone, hbefore]
            rfl
          · simpa using hfault
  · rintro ⟨before, d, after, rfl, hbefore, hfault⟩
    rw [firstFault_append, hbefore, firstFault, hfault]
    rfl

/-! ## Compiling -/

/-- **Compiling ends in the rules of all definitions, unless there is a fault.** -/
theorem compileAfter_eq_okUnless (taken : List String) (definitions : List RuleDefinition) :
    compileAfter taken definitions =
      okUnless (definitions.map RuleDefinition.compile) (firstFault taken definitions) := by
  induction definitions generalizing taken with
  | nil => rfl
  | cons d ds ih =>
      rw [compileAfter, firstFault, RuleDefinition.faultAfter, ih]
      by_cases hempty : d.name = ""
      · rw [if_pos hempty, if_pos hempty]
        rfl
      · by_cases htaken : d.name ∈ taken
        · rw [if_neg hempty, if_neg hempty, if_pos htaken, if_pos (by simpa using htaken)]
          rfl
        · rw [if_neg hempty, if_neg hempty, if_neg htaken, if_neg (by simpa using htaken)]
          cases firstFault (d.name :: taken) ds <;> rfl

theorem compile_eq_okUnless (definitions : List RuleDefinition) :
    compile definitions =
      okUnless ⟨definitions.map RuleDefinition.compile⟩ (firstFault [] definitions) := by
  rw [compile, compileAfter_eq_okUnless]
  cases firstFault [] definitions <;> rfl

/-- **Definitions make a rule set** just if their names are not empty and differ; its rules are
those of the definitions. -/
theorem compile_eq_ok_iff {definitions : List RuleDefinition} {s : RuleSet} :
    compile definitions = .ok s ↔
      (∀ d ∈ definitions, d.name ≠ "") ∧ (definitions.map RuleDefinition.name).Nodup ∧
        s = ⟨definitions.map RuleDefinition.compile⟩ := by
  rw [compile_eq_okUnless, okUnless_eq_ok_iff, firstFault_eq_none_iff]
  simp only [List.not_mem_nil, not_false_eq_true, and_true, and_assoc, eq_comm (a := s)]

/-- **Definitions make no rule set** just if one of them is at fault behind others that are not. -/
theorem compile_eq_error_iff {definitions : List RuleDefinition} {e : RuleError} :
    compile definitions = .error e ↔
      ∃ before d after, definitions = before ++ d :: after ∧
        (∀ earlier ∈ before, earlier.name ≠ "") ∧ (before.map RuleDefinition.name).Nodup ∧
        d.faultAfter (before.map RuleDefinition.name) = some e := by
  rw [compile_eq_okUnless, okUnless_eq_error_iff, firstFault_eq_some_iff]
  simp only [firstFault_eq_none_iff, RuleDefinition.faultAfter_eq_some_iff, List.append_nil,
    List.mem_reverse, List.not_mem_nil, not_false_eq_true, and_true, and_assoc]

/-! ## Finding rules -/

/-- Under a name of its own a rule is found, and no other. -/
theorem get?_eq_some_iff {s : RuleSet} (h : (s.rules.map Rule.name).Nodup) {name : String}
    {rule : Rule} : s.get? name = some rule ↔ rule ∈ s.rules ∧ rule.name = name := by
  unfold get?
  constructor
  · intro hfound
    exact ⟨List.mem_of_find?_eq_some hfound, by simpa using List.find?_some hfound⟩
  · rintro ⟨hrule, hname⟩
    -- some rule of the name is found, and with different names it is this one
    cases hfound : s.rules.find? (·.name == name) with
    | none =>
        have hmissed := List.find?_eq_none.mp hfound rule hrule
        simp [hname] at hmissed
    | some found =>
        have hfoundName : found.name = name := by simpa using List.find?_some hfound
        rw [List.inj_on_of_nodup_map h (List.mem_of_find?_eq_some hfound) hrule
          (hfoundName.trans hname.symm)]

theorem get?_eq_none_iff {s : RuleSet} {name : String} :
    s.get? name = none ↔ ∀ rule ∈ s.rules, rule.name ≠ name := by
  simp [get?]

/-- **What compiling definitions comes to.** There is a rule set just if all names are there and
differ; then it has one rule for each definition, in order, with its name, its description and
the condition its query stands for, and finds it under its name, and nothing under any other.
Otherwise the first definition whose name is empty, or is that of an earlier one, decides the
error. -/
theorem compile_outcome (definitions : List RuleDefinition) :
    (∀ s, compile definitions = .ok s ↔
        (∀ d ∈ definitions, d.name ≠ "") ∧ (definitions.map RuleDefinition.name).Nodup ∧
          s.rules = definitions.map fun d => ⟨d.name, d.description, parse d.query⟩) ∧
      (∀ s, compile definitions = .ok s →
        (∀ d ∈ definitions, s.get? d.name = some ⟨d.name, d.description, parse d.query⟩) ∧
          ∀ name, (∀ d ∈ definitions, d.name ≠ name) → s.get? name = none) ∧
      ∀ e, compile definitions = .error e ↔
        ∃ before d after, definitions = before ++ d :: after ∧
          (∀ earlier ∈ before, earlier.name ≠ "") ∧ (before.map RuleDefinition.name).Nodup ∧
          ((d.name = "" ∧ e = .emptyName) ∨
            (d.name ≠ "" ∧ d.name ∈ before.map RuleDefinition.name ∧
              e = .duplicateName d.name)) := by
  refine ⟨?_, ?_, ?_⟩
  · intro s
    rw [compile_eq_ok_iff]
    refine and_congr_right fun _ => and_congr_right fun _ => ?_
    cases s
    simp only [RuleSet.mk.injEq]
    rfl
  · intro s hs
    obtain ⟨-, hnodup, rfl⟩ := compile_eq_ok_iff.mp hs
    have hnames : ((definitions.map RuleDefinition.compile).map Rule.name).Nodup := by
      rw [List.map_map]
      exact hnodup
    constructor
    · intro d hd
      rw [get?_eq_some_iff hnames]
      exact ⟨List.mem_map.mpr ⟨d, hd, rfl⟩, rfl⟩
    · intro name hother
      rw [get?_eq_none_iff]
      intro rule hrule
      obtain ⟨d, hd, rfl⟩ := List.mem_map.mp hrule
      exact hother d hd
  · intro e
    rw [compile_eq_error_iff]
    simp only [RuleDefinition.faultAfter_eq_some_iff]

/-- A rule about the spending. -/
def spendDefinition : RuleDefinition := ⟨"spend", "big spenders", "spend>=1000"⟩

/-- Another rule of that name. -/
def secondSpendDefinition : RuleDefinition := ⟨"spend", "", "spend>=2000"⟩

/-- A rule about the device. -/
def deviceDefinition : RuleDefinition := ⟨"device", "", "deviceType=mobile"⟩

/-- A rule without a name. -/
def namelessDefinition : RuleDefinition := ⟨"", "nameless", "id=1"⟩

/-- A taken name and an empty one, in either order: the first of them decides. -/
theorem compile_outcome_faults :
    (∃ s, compile [spendDefinition, deviceDefinition] = .ok s ∧
        s.get? "device" = some ⟨"device", "", parse "deviceType=mobile"⟩ ∧ s.get? "id" = none) ∧
      compile [spendDefinition, deviceDefinition, secondSpendDefinition, namelessDefinition] =
        .error (.duplicateName "spend") ∧
      compile [spendDefinition, namelessDefinition, secondSpendDefinition] =
        .error .emptyName := by
  refine ⟨?_, ?_, ?_⟩
  · obtain ⟨hcompile, hget, -⟩ := compile_outcome [spendDefinition, deviceDefinition]
    have hok : compile [spendDefinition, deviceDefinition] =
        .ok ⟨[spendDefinition.compile, deviceDefinition.compile]⟩ :=
      (hcompile _).mpr ⟨by decide, by decide, rfl⟩
    obtain ⟨hdefined, hother⟩ := hget _ hok
    exact ⟨_, hok, hdefined deviceDefinition (by simp), hother "id" (by decide)⟩
  · refine ((compile_outcome _).2.2 _).mpr ⟨[spendDefinition, deviceDefinition],
      secondSpendDefinition, [namelessDefinition], rfl, by decide, by decide, .inr ?_⟩
    decide
  · refine ((compile_outcome _).2.2 _).mpr ⟨[spendDefinition], namelessDefinition,
      [secondSpendDefinition], rfl, by decide, by decide, .inl ?_⟩
    decide

end RuleSet

end FilterQuery
