import AuditTrail.CommandLine.Reply
import AuditTrail.Config.BuiltIn
import AuditTrail.Time.Database

/-!
# Main — the program

The program looks at the files that the command line and the environment may choose, and leaves the
rest to `CommandLine.Request.reply`.
-/

open AuditTrail AuditTrail.CommandLine AuditTrail.Time

/-- What stands at a path, with the bytes of a file. -/
def glance (path : Path) : IO (Except SystemCause (Option (List UInt8))) := do
  try
    let bytes ← IO.FS.readBinFile path.text
    return .ok (some bytes.toList)
  catch
    | .noFileOrDirectory .. => return .error .notFound
    | .permissionDenied .. => return .error .noPermission
    | _ => return .ok none

/-- The names of the variables, as they are usually written. -/
def variableNames : List String :=
  ["CONFIG_PATH", "FILTER", "LOG_TIMING_STRATEGY", "REDACT_UNKNOWN_OPERATION",
    "SUPPRESS_PREPARE_STATEMENTS", "LOG_FORMAT"].map ("DBAUDIT_" ++ ·)

/-- The variables that are set. -/
def environment : IO Environment :=
  variableNames.filterMapM fun name => do
    return (← IO.getEnv name).map (name, ·)

/-- The path that a request gives. -/
def pathOf : Request → Option Path
  | .validate path _ => path.map Path.parse
  | .preview path _ => path.map Path.parse
  | _ => none

/-- The site, as far as a request and the environment may look at it. -/
def siteFor (request : Request) (assigned : Environment) : IO Site := do
  let directory := Path.parse (← IO.currentDir).toString
  let home := Path.parse ((← IO.getEnv "HOME").getD "/")
  let blind : Site := .plain directory home fun _ => .error .notFound
  let named := (Overrides.value? assigned "config_path").map Path.parse
  let paths := (pathOf request).toList ++ named.toList ++ Site.defaultPaths
  let resolved (path : Path) : Option Path := (blind.expand path >>= blind.resolve).toOption
  let seen ← (paths.filterMap resolved).mapM fun path => do
    return (path, ← glance path)
  return .plain directory home fun path =>
    (seen.lookup { path with parts := Site.withoutParents path.parts }).getD (.error .notFound)

/-- The hundredths of a second in a decimal number. -/
def hundredths (text : String) : Nat :=
  let (whole, fraction) := text.toList.span (· ≠ '.')
  Number.foldDigits 0 (whole ++ ((fraction.drop 1 ++ ['0', '0']).take 2))

/-- The milliseconds since 1970: those at which the system started, and those since then. -/
def currentTime : IO Int := do
  let uptime := ((← IO.FS.readFile "/proc/uptime").splitOn " ").headD "0"
  let lines := (← IO.FS.readFile "/proc/stat").splitOn "\n"
  let started := (lines.find? (·.startsWith "btime ")).getD "btime 0"
  return 1000 * Number.foldDigits 0 (started.toList.drop 6) + 10 * hundredths uptime

/-- A random identifier. -/
def randomUuid : IO Uuid := do
  let bytes ← IO.getRandomBytes 16
  let bits := bytes.toList.foldl (fun n byte => 256 * n + byte.toNat) 0
  let kept : BitVec 128 := BitVec.ofNat 128 bits &&& ~~~ 0xF000C000000000000000#128
  return ⟨kept ||| 0x40008000000000000000#128⟩

/-- A reply on its stream, and the exit code. -/
def present (reply : Reply) : IO UInt32 := do
  let output ← IO.getStdout
  let errors ← IO.getStderr
  match reply with
  | .printed text => output.putStr text; return 0
  | .usage text code => output.putStrLn text; return code.toUInt32
  | .misused text => errors.putStrLn text; return 2
  | .failed failure =>
    errors.putStrLn ("Error: " ++ failure.report?.getD "the configuration cannot be used")
    return 1

/-- The program. -/
def main (arguments : List String) : IO UInt32 := do
  let request := Request.parse arguments
  let assigned ← environment
  let site ← siteFor request assigned
  let surroundings : Surroundings (List (Data × Data)) :=
    { intake := .builtIn, site, environment := assigned, platform := ⟨.builtIn, .silent⟩
      now := ← currentTime, batch := ← randomUuid }
  present (request.reply surroundings)
