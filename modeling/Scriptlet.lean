import Scriptlet.Token.Lexer
import Scriptlet.Grammar.Program
import Scriptlet.Syntax.Equality
import Scriptlet.Syntax.Erasure
import Scriptlet.Syntax.Outline
import Scriptlet.Value.Operation
import Scriptlet.Script
import Scriptlet.Host.Stock
import Scriptlet.CommandLine
import Scriptlet.Main
import Scriptlet.Shell
import Scriptlet.Pattern.Matching
import Scriptlet.Proofs.Evaluation.Vocabulary
import Scriptlet.Proofs.Evaluation.Lockstep
import Scriptlet.Proofs.Evaluation.Upkeep
import Scriptlet.Proofs.Calls.Isolation
import Scriptlet.Proofs.Calls.Sight
import Scriptlet.Proofs.Calls.Independence
import Scriptlet.Proofs.Calls.Alias
import Scriptlet.Proofs.Machine.HostFree
import Scriptlet.Proofs.Evaluation.Untouched
import Scriptlet.Proofs.Evaluation.Parts
import Scriptlet.Proofs.Machine.Layout
import Scriptlet.Proofs.Machine.Bookkeeping
import Scriptlet.Proofs.Machine.Visits
import Scriptlet.Proofs.Machine.Innermost
import Scriptlet.Proofs.Host.Operations
import Scriptlet.Proofs.Host.Nesting
import Scriptlet.Proofs.Calls.Endings
import Scriptlet.Proofs.Calls.Termination
import Scriptlet.Proofs.Grammar.Derivation
import Scriptlet.Proofs.Grammar.Soundness
import Scriptlet.Proofs.Grammar.Completeness
import Scriptlet.Proofs.Grammar.Rules
import Scriptlet.Proofs.Grammar.Follow
import Scriptlet.Proofs.Grammar.Unambiguous
import Scriptlet.Proofs.Grammar.Acceptance
import Scriptlet.Proofs.Text.Numerals
import Scriptlet.Proofs.Token.Proper
import Scriptlet.Proofs.Token.Spelling
import Scriptlet.Proofs.Rendering.Expressions
import Scriptlet.Proofs.Rendering.RoundTrip
import Scriptlet.Proofs.Token.Longest
import Scriptlet.Proofs.Token.Tiling
import Scriptlet.Proofs.Grammar.Viable
import Scriptlet.Proofs.Places.Definitions
import Scriptlet.Proofs.Places.Trees
import Scriptlet.Proofs.Places.Operators
import Scriptlet.Proofs.Places.Machines
import Scriptlet.Proofs.Places.Evaluation
import Scriptlet.Proofs.Places.Calls
import Scriptlet.Proofs.Rendering.Meaning
import Scriptlet.Proofs.Evaluation.Congruence
import Scriptlet.Proofs.Calls.Limit
import Scriptlet.Proofs.Calls.Recursion
import Scriptlet.Proofs.Grammar.Failure
import Scriptlet.Proofs.Evaluation.Arithmetic
import Scriptlet.Proofs.Grammar.Trivia
import Scriptlet.Proofs.Evaluation.Course
import Scriptlet.Proofs.Calls.Brackets
import Scriptlet.Proofs.Host.Reporting
import Scriptlet.Proofs.Evaluation.Assignment
import Scriptlet.Proofs.Text.Utf8
import Scriptlet.Proofs.Token.Requests
import Scriptlet.Proofs.Values.Collections
import Scriptlet.Proofs.Evaluation.Update
import Scriptlet.Proofs.Grammar.Grouping
import Scriptlet.Proofs.Evaluation.Innocence
import Scriptlet.Proofs.Calls.Strays
import Scriptlet.Proofs.Evaluation.Outcomes
import Scriptlet.Proofs.Calls.Descent
import Scriptlet.Proofs.Calls.Siblings
import Scriptlet.Proofs.Evaluation.Loops
import Scriptlet.Proofs.Text.Order
import Scriptlet.Proofs.Values.Canonical
import Scriptlet.Proofs.Evaluation.Heredity
import Scriptlet.Proofs.Evaluation.Building
import Scriptlet.Proofs.Token.Succession
import Scriptlet.Proofs.Places.Nodes
import Scriptlet.Proofs.Places.Distinct
import Scriptlet.Proofs.Places.Leading
import Scriptlet.Proofs.Places.Introduction
import Scriptlet.Proofs.Places.Order
import Scriptlet.Proofs.Places.Containment
import Scriptlet.Proofs.Places.Documentation
import Scriptlet.Proofs.Grammar.EndOfInput
import Scriptlet.Proofs.Grammar.Progress
import Scriptlet.Proofs.Calls.Searches
import Scriptlet.Proofs.Machine.Cutting
