import LineComment.Main
import LineComment.Proofs.Blank
import LineComment.Proofs.Judgement
import LineComment.Proofs.Lines
import LineComment.Proofs.Survivors
import LineComment.Proofs.SecondPass
import LineComment.Proofs.Lexer
import LineComment.Proofs.Outline
import LineComment.Proofs.Skeleton
import LineComment.Proofs.Wording
import LineComment.Proofs.RemovalPolicy
import LineComment.Proofs.LineEndings
import LineComment.Proofs.Settling
import LineComment.Proofs.Rewriting
import LineComment.Proofs.SecondRun
import LineComment.Proofs.DryRun
import LineComment.Proofs.Rewording
import LineComment.Proofs.Sparing
import LineComment.Proofs.Settings
import LineComment.Proofs.Spelling
import LineComment.Proofs.Callbacks
import LineComment.Proofs.FatalErrors
import LineComment.Proofs.Items
import LineComment.Proofs.Isolation
import LineComment.Proofs.Transcript
import LineComment.Proofs.Levels
import LineComment.Proofs.Accounting
import LineComment.Proofs.Terminators
import LineComment.Proofs.Patterns
import LineComment.Proofs.Decisions
import LineComment.Proofs.Indentation
import LineComment.Proofs.LetterCase
import LineComment.Proofs.Scope
import LineComment.Proofs.Rounding
import LineComment.Proofs.Progress
import LineComment.Proofs.Totals
import LineComment.Proofs.Layering
import LineComment.Proofs.Precedence
import LineComment.Proofs.Cutting
import LineComment.Proofs.Doubles
import LineComment.Proofs.Decimals
import LineComment.Proofs.Validation
