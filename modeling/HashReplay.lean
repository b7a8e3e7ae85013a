import HashReplay.Capture.Reader
import HashReplay.Main
import HashReplay.Proofs.Bench.Accounting
import HashReplay.Proofs.Bench.Asked
import HashReplay.Proofs.Bench.Calls
import HashReplay.Proofs.Bench.Course
import HashReplay.Proofs.Bench.Ending
import HashReplay.Proofs.Bench.Moments
import HashReplay.Proofs.Bench.Passing
import HashReplay.Proofs.Bench.Presentation
import HashReplay.Proofs.Bench.Recording
import HashReplay.Proofs.Bench.Refusal
import HashReplay.Proofs.Bench.Unforgeable
import HashReplay.Proofs.CommandLine.AnyOrder
import HashReplay.Proofs.Fixture.Records
import HashReplay.Proofs.HashLine.Grammar
import HashReplay.Proofs.Report.Echo
import HashReplay.Proofs.Report.Explanation
import HashReplay.Proofs.Text.Numeral
import HashReplay.Proofs.Verbosity
import HashReplay.Proofs.Report.Levels
import HashReplay.Proofs.Report.Lines
import HashReplay.Proofs.Report.OneLine
import HashReplay.Proofs.Report.Stages
import HashReplay.Proofs.Report.StatusLines
import HashReplay.Proofs.Session.Green
import HashReplay.Proofs.HashLine.Bytes
import HashReplay.Proofs.Bench.Reuse
import HashReplay.Proofs.Json.Compound
import HashReplay.Proofs.Binary64.Rounding
import HashReplay.Proofs.Binary64.Shortest
import HashReplay.Proofs.Json.Layout
import HashReplay.Proofs.Capture.RoundTrip
import HashReplay.Proofs.Capture.History
import HashReplay.Proofs.Bench.Delivery
import HashReplay.Proofs.Bench.Simulation
import HashReplay.Proofs.Bench.Capturing
import HashReplay.Proofs.Text.Strict
import HashReplay.Proofs.Bench.Lockstep
import HashReplay.Proofs.Fixture.Truncation
import HashReplay.Proofs.Session.Fatal
import HashReplay.Proofs.Session.Strict
import HashReplay.Proofs.Bench.Independence
import HashReplay.Proofs.Fixture.Writing
import HashReplay.Proofs.Fixture.Concatenation
import HashReplay.Proofs.Programs.StandIn
import HashReplay.Proofs.HashLine.Search
import HashReplay.Proofs.Text.LetterCase
import HashReplay.Proofs.HashLine.Lines
import HashReplay.Proofs.Verdict.Exactness
import HashReplay.Proofs.LineEndings
import HashReplay.Proofs.Invocation.Faithful
import HashReplay.Proofs.Programs.KeptArguments
import HashReplay.Proofs.Capture.MemberOrder
import HashReplay.Proofs.Binary64.Nearness
import HashReplay.Proofs.Binary64.SeventeenDigits
import HashReplay.Proofs.Capture.Elapsed
