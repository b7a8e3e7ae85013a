import HashReplay.Fixture.Basic
import HashReplay.Text.Blank
import HashReplay.Text.Quoted

/-!
# Invocations

A test case becomes an invocation of the tool: the words of its arguments, followed by the options
that every case needs.  A fixture therefore only carries what is particular to a case.

## Main definitions

* `Invocation` — a program and its arguments.
* `Builder` — the executable and the stream class that all invocations of a run share.
* `Builder.build` — the invocation of a test case.
-/

namespace HashReplay

/-- A program and its arguments. -/
structure Invocation where
  program : String
  args : List String
  deriving DecidableEq, Repr

namespace Invocation

/-- The argument vector: the program, then its arguments. -/
def argv (i : Invocation) : List String := i.program :: i.args

/-- The argument vector on one line, separated by spaces and not quoted. -/
def display (i : Invocation) : String := " ".intercalate i.argv

/-- The argument vector with every member quoted, so that no two look alike. -/
def quoted (i : Invocation) : String :=
  String.ofList (Text.Quoted.quoteList (i.argv.map String.toList))

end Invocation

/-- The stream class that the tool reads its source with unless another is asked for. -/
def defaultStreamClass : String := "curl_http_inputstream"

/-- What the invocations of a run share. -/
structure Builder where
  /-- The tool. -/
  executable : String
  /-- How the tool reads its source. -/
  streamClass : String
  deriving DecidableEq, Repr

namespace Builder

/-- The options that every invocation ends with. -/
def trailer (b : Builder) (inputSource outputDestination : String) : List String :=
  ["--source", inputSource, "--source-stream-class", b.streamClass, "--output", outputDestination,
    "--calc-hash"]

/-- The words of a text. -/
def wordsOf (s : String) : List String := (Text.words s.toList).map String.ofList

/-- The invocation of a test case. -/
def build (b : Builder) (c : TestCase) : Invocation where
  program := b.executable
  args := wordsOf c.arguments ++ b.trailer c.inputSource c.outputDestination

end Builder

end HashReplay
