import CardReboot.Host
import CardReboot.Shell.Command
import CardReboot.Shell.Script
import CardReboot.Text.CharSet

/-!
# Running shell scripts

A script runs as far as the shell does not end.  The octets of the streams are
repaired into texts, and the error stream loses the blanks at its two ends,
while the output is kept as it is because tables depend on their blanks.
-/

namespace CardReboot.Shell

open Text

/-- Redirects one stream after another, up to the first that cannot be. -/
def redirectAll (status : Nat) :
    List Redirection → Channels → Channels × Option RedirectionFault
  | [], c => (c, none)
  | r :: rest, c =>
      match c.redirect r.stream r.toStream (r.target.expand status) with
      | .ok c => redirectAll status rest c
      | .error fault => (c, some fault)

/-- Runs something with streams of its own.  If they cannot be redirected it does
not run. -/
def runRedirected (setting : Setting) (redirections : List Redirection) (special : Bool)
    (body : Setting → Session → Session) (s : Session) : Session :=
  let (channels, fault) := redirectAll s.status redirections setting.channels
  let setting := { setting with channels := channels }
  match fault with
  | none => body setting s
  | some fault =>
      let s := (s.complain setting fault.message).withStatus 2
      if special || fault = .noStream then s.leave else s

/-- Runs a script, unless the shell has ended. -/
def run (channels : Channels) : Script → Session → Session
  | .nothing, s => s
  | .command line words redirections, s =>
      if s.ending.isSome then s
      else
        let words := expandAll s.status words
        runRedirected ⟨line, channels⟩ redirections ((words.head?.map isSpecial).getD false)
          (fun setting => runCommand setting words) s
  | .subshell line body redirections, s =>
      if s.ending.isSome then s
      else
        (runRedirected ⟨line, channels⟩ redirections false
          (fun setting => run setting.channels body) s).rejoin
  | .pipe first second, s =>
      if s.ending.isSome then s
      else
        let after := (run (channels.tie '1' .nowhere) first s).rejoin
        if after.ending.isSome then after
        else (run channels second (after.withStatus s.status)).rejoin
  | .negation body, s =>
      let after := run channels body s
      if after.ending.isSome then after
      else after.withStatus (if after.status = 0 then 1 else 0)
  | .both first second, s =>
      let after := run channels first s
      if after.status = 0 then run channels second after else after
  | .either first second, s =>
      let after := run channels first s
      if after.status = 0 then after else run channels second after
  | .background body, s =>
      if s.ending.isSome then s
      else
        let after := (run channels body s).rejoin
        if after.ending.isSome then after else after.withStatus 0
  | .sequence first second, s => run channels second (run channels first s)

namespace Session

/-- The complaint about a text that cannot be read further. -/
def stopAt (s : Session) (fault : Option PlacedFault) : Session :=
  match fault with
  | some ⟨line, fault⟩ =>
      if s.ending.isSome then s
      else (s.complain { line := line } ("Syntax error: " ++ fault.message)).withStatus 2
  | none => s

def result (s : Session) : ProcessResult where
  exitCode := if s.ending = some .killed then -1 else s.status
  output := String.ofList (repair s.output)
  error := String.ofList (trim (repair s.error))

end Session

/-- The letters of the options that a shell takes. -/
def optionLetters : List Char := "efIilmnsxvVECabupco".toList

/-- The complaint about a text that stands where the shell expects options: there
is no script behind them. -/
def optionComplaint (letters : List Char) : String :=
  match letters.find? fun c => !optionLetters.contains c with
  | some c => if letters = ['-'] then "-c requires an argument" else illegalOption c
  | none => "-c requires an argument"

/-- Runs a text.  One that begins like an option is not taken for a script. -/
def runText (text : String) : ProcessResult :=
  match text.toList with
  | '-' :: letters | '+' :: letters =>
      ((({} : Session).complain { line := 0 } (optionComplaint letters)).withStatus 2).result
  | text =>
      let (script, fault) := Script.ofText text
      ((run {} script {}).stopAt fault).result

/-- Whether the text can be handed to a process at all: no text with the
character zero can. -/
def isPassable (text : String) : Bool := !text.toList.any fun c => c.toNat == 0

/-- The error for a command that cannot be handed to a process. -/
def impassable (command : String) : DeviceError :=
  .shellExec command "nul byte found in provided data"

/-- Runs a command that can be handed to a process. -/
def execute (command : String) : Answered ProcessResult :=
  if isPassable command then .ok (runText command) else .error (impassable command)

end CardReboot.Shell
