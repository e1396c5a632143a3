import BuilderGen.Disk.Sink
import BuilderGen.Pass
import BuilderGen.Scan

/-!
# Generators

A generator knows which paths to scan, where the builders go and how setters are called. A run scans
all paths first and then serves every request that was found. It fails as a whole only when a path
to scan is not there, and then nothing has been written.
-/

namespace BuilderGen

/-- What a generator is told. -/
structure Generator where
  /-- The paths to scan. -/
  scanPaths : List FilePath := []
  /-- The folder for the builders. -/
  outputFolder : Option FilePath := none
  /-- The module that a scanned folder stands for. -/
  crateName : String := "crate"
  /-- How setters are called. -/
  style : SetterStyle := .prefixed
  deriving DecidableEq, Repr

namespace Generator

/-- The paths that are scanned: `src/` when none is given. -/
def resolvedScanPaths (g : Generator) : List FilePath :=
  if g.scanPaths.isEmpty then [⟨"src/"⟩] else g.scanPaths

/-- The folder that the builders go to. When none is given, it lies in the folder for build
results, which is called `target` unless the environment names another one. -/
def resolvedOutputFolder (g : Generator) (buildFolder : Option FilePath) : FilePath :=
  g.outputFolder.getD ((buildFolder.getD ⟨"target"⟩).join ⟨"swagger_builders"⟩)

/-- The failure of a whole run: a path to scan is not there. -/
structure RunFailure where
  /-- The scan that failed. -/
  cause : MissingPath
  deriving DecidableEq, Repr

/-- The failure in words. -/
def RunFailure.message (e : RunFailure) : String :=
  s!"Failed to scan {e.cause.path.text}: {e.cause.message}"

/-- Scan paths in order, up to the first that is not there. What was said is kept in any case. -/
def scanAll (d : Disk) (crate : String) : List FilePath → Except RunFailure Unit × Scan
  | [] => (.ok (), {})
  | p :: rest =>
    match scan d crate p with
    | .error e => (.error ⟨e⟩, {})
    | .ok s =>
      let (outcome, s') := scanAll d crate rest
      (outcome, s.append s')

/-- Scan every path of a generator. -/
def scan (g : Generator) (d : Disk) : Except RunFailure Unit × Scan :=
  scanAll d g.crateName g.resolvedScanPaths

/-- What came of a run. -/
structure Run (σ : Type) where
  /-- The report, or why there is none. -/
  outcome : Except RunFailure Report
  /-- What was said, in order. -/
  events : List Event
  /-- What the sink has stored. -/
  stored : σ

/-- What is said when a run starts. -/
def startNote : Event := .note "swagger-builder generator is running"

/-- What is said when a run is done. -/
def closingLine (r : Report) : Event :=
  .log .info s!"swagger-builder: generated {r.generated.length} of {r.total} builders"

/-- Scan the paths on a disk and serve the requests, writing to a sink. -/
def run {σ : Type} (g : Generator) (d : Disk) (sink : Sink σ) (s : σ) : Run σ :=
  match g.scan d with
  | (.error e, found) => { outcome := .error e, events := startNote :: found.events, stored := s }
  | (.ok (), found) =>
    let r := generate sink g.style found.declarations s
    { outcome := .ok r.report
      events := startNote :: found.events ++ r.events ++ [closingLine r.report]
      stored := r.stored }

/-- The run that keeps the builders in memory. -/
def preview (g : Generator) (d : Disk) : Run Store := g.run d Store.sink {}

/-- The run that writes the builders to a folder of the disk it scans. -/
def runToFolder (g : Generator) (d : Disk) (folder : FilePath) : Run Disk :=
  g.run d (Disk.sink folder) d

/-- The lines for the build system: one for every failure. -/
def buildLines (es : List Event) : List String :=
  (textsAt .error (messages es)).map ("cargo:warning=swagger-builder: " ++ ·)

/-- What a run prints for the build system. -/
def buildOutput (es : List Event) : String :=
  (buildLines es).foldr (fun line rest => line ++ "\n" ++ rest) ""

end Generator

end BuilderGen
