import ArithmeticGame.Main
import ArithmeticGame.Proofs.Result
import ArithmeticGame.Proofs.Binary64.Unpacked
import ArithmeticGame.Proofs.Binary64.Exact
import ArithmeticGame.Proofs.Binary64.Arithmetic
import ArithmeticGame.Proofs.Random.Range
import ArithmeticGame.Proofs.Target.Supply
import ArithmeticGame.Proofs.Award.Decision
import ArithmeticGame.Proofs.Expr.Tree
import ArithmeticGame.Proofs.Expr.Grammar
import ArithmeticGame.Proofs.Expr.Scan
import ArithmeticGame.Proofs.Expr.Lexemes
import ArithmeticGame.Proofs.Expr.Printing
import ArithmeticGame.Proofs.Expr.RoundTrip
import ArithmeticGame.Proofs.Expr.Forest
import ArithmeticGame.Proofs.Pool.States
import ArithmeticGame.Proofs.Pool.Rules
import ArithmeticGame.Proofs.Pool.Lifecycle
import ArithmeticGame.Proofs.Pool.Exhaustion
import ArithmeticGame.Proofs.Pool.Usage
import ArithmeticGame.Proofs.Session.Run
import ArithmeticGame.Proofs.Session.Phases
import ArithmeticGame.Proofs.Session.Interleaving
import ArithmeticGame.Proofs.Session.Consumption
import ArithmeticGame.Proofs.Session.Progress
import ArithmeticGame.Proofs.Session.Refusal
import ArithmeticGame.Proofs.Expr.Order
import ArithmeticGame.Proofs.Expr.Nesting
import ArithmeticGame.Proofs.Expr.Sentence
import ArithmeticGame.Proofs.Expr.FullForm
import ArithmeticGame.Proofs.Expr.Integers
import ArithmeticGame.Proofs.Session.Verdict
import ArithmeticGame.Proofs.Session.Exactness
import ArithmeticGame.Proofs.Session.Balance
import ArithmeticGame.Proofs.Session.Reports
import ArithmeticGame.Proofs.Session.Restart
import ArithmeticGame.Proofs.EventLoop.Deliveries
import ArithmeticGame.Proofs.Dialogue.Notices
import ArithmeticGame.Proofs.Dialogue.Typing
import ArithmeticGame.Proofs.Json.Words
import ArithmeticGame.Proofs.Json.Integers
import ArithmeticGame.Proofs.Json.Objects
import ArithmeticGame.Proofs.Settings.Members
import ArithmeticGame.Proofs.Settings.File
import ArithmeticGame.Proofs.Random.Evenness
import ArithmeticGame.Proofs.Random.Fairness
import ArithmeticGame.Proofs.EventLoop.Queue
import ArithmeticGame.Proofs.Screen.Input
import ArithmeticGame.Proofs.Screen.Reading
import ArithmeticGame.Proofs.Screen.Grid
