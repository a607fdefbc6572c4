import FilterQuery.Main
import FilterQuery.Proofs.Condition.JsonRoundTrip
import FilterQuery.Proofs.Condition.Siblings
import FilterQuery.Proofs.Condition.Unwrapping
import FilterQuery.Proofs.Evaluation.Composite
import FilterQuery.Proofs.Evaluation.Errors
import FilterQuery.Proofs.Evaluation.Filtering
import FilterQuery.Proofs.Evaluation.Inquiry
import FilterQuery.Proofs.Evaluation.Integers
import FilterQuery.Proofs.Evaluation.Printed
import FilterQuery.Proofs.Evaluation.Removal
import FilterQuery.Proofs.Evaluation.Rendering
import FilterQuery.Proofs.Matching.Absence
import FilterQuery.Proofs.Matching.Families
import FilterQuery.Proofs.Matching.Normalization
import FilterQuery.Proofs.Matching.Projection
import FilterQuery.Proofs.Matching.Reflexive
import FilterQuery.Proofs.Matching.Separators
import FilterQuery.Proofs.Query.Composition
import FilterQuery.Proofs.Query.Descent
import FilterQuery.Proofs.Query.Grammar
import FilterQuery.Proofs.Query.Image
import FilterQuery.Proofs.Query.Lossless
import FilterQuery.Proofs.Query.Splitting
import FilterQuery.Proofs.Rule.Answers
import FilterQuery.Proofs.Rule.Compilation
