import ScriptTrace.Command.Run
import ScriptTrace.Fixture.Suite

/-! The command that replays a suite of fixtures.
It lists the verdicts if asked to, then the counts, and a sample of the failures otherwise. -/
namespace ScriptTrace.Fixture.Replay
open Text Command

/-- What the arguments ask for. -/
structure Order where
  root : Text
  verbose : Bool
  deriving DecidableEq, Repr

def defaultRoot : Text := "fixtures/histerrs".toList

def verboseFlag : Text := "verbose".toList

def parse (arguments : List Text) : Parsed Order :=
  (Signature.sort ⟨[verboseFlag], 1, false⟩ .none arguments).bind fun given =>
    .command ⟨given.plain.head?.getD defaultRoot, given.has verboseFlag⟩

def verdictLine (path : Text) : Verdict → Text
  | .passed => asLine ("PASS ".toList ++ path)
  | .failed reason => asLine ("FAIL ".toList ++ path ++ " - ".toList ++ reason)
  | .skipped reason => asLine ("SKIP ".toList ++ path ++ " - ".toList ++ reason)

def rule : Text := asLine (List.replicate 60 '=')

def totals (s : Summary) (elapsed : Text) : Text :=
  ['\n'] ++ rule ++
    asLine ("Passed: ".toList ++ decimal s.passed ++ " | Failed: ".toList ++ decimal s.failed ++
      " | Skipped: ".toList ++ decimal s.skipped) ++
    asLine ("Completed in ".toList ++ elapsed) ++ rule

def sampleSize : Nat := 10

def sample (failures : List (Text × Text)) : Text :=
  asLine "\nSample failures:".toList ++
    (failures.take sampleSize).flatMap (fun (path, reason) =>
      asLine ("  ".toList ++ path ++ " - ".toList ++ reason)) ++
    if sampleSize < failures.length then
      asLine ("  ... and ".toList ++ decimal (failures.length - sampleSize) ++
        " more (use --verbose for all)".toList)
    else []

def run (disk : Disk) (elapsed : Text) (order : Order) : Report :=
  let paths := collect disk order.root
  let summary := runSuite disk.read paths
  let listed :=
    if order.verbose then paths.flatMap fun path => verdictLine path (judge disk.read path) else []
  let sampled :=
    if 0 < summary.failed && !order.verbose then sample summary.failures else []
  let output :=
    asLine ("Running ".toList ++ decimal paths.length ++ " fixture files...\n".toList) ++ listed ++
      totals summary elapsed ++ sampled
  ⟨if 0 < summary.failed then 1 else 0, output, [], []⟩

def usage : Text := "usage: histerrs-runner [PATH] [--verbose]\n".toList

def runArguments (disk : Disk) (elapsed : Text) (arguments : List Text) : Report :=
  match parse arguments with
  | .command order => run disk elapsed order
  | .help => ⟨0, usage, [], []⟩
  | _ => ⟨2, [], usage, []⟩

end ScriptTrace.Fixture.Replay
