import JobLang.Check.Program
import JobLang.Proofs.Blame.Truth
import JobLang.Proofs.Check.Plain
import JobLang.Proofs.Dump.Pretty
import JobLang.Proofs.Evaluation.Rewriting
import JobLang.Proofs.Frame.Failure
import JobLang.Proofs.Positions.Removal
import JobLang.Proofs.Quote.Lexeme
import JobLang.Proofs.Relabeling.Growth
import JobLang.Proofs.Report.Caret
import JobLang.Proofs.Report.Unforged
import JobLang.Proofs.Run.Simplify
import JobLang.Proofs.Scopes.Lookup
import JobLang.Proofs.Simplify.Declarations
import JobLang.Proofs.Simplify.Normal
import JobLang.Proofs.Simplify.Size
import JobLang.Proofs.Types.Mismatch
import JobLang.Typed.Agreement
