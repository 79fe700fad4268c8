import CardReboot.Campaign
import CardReboot.Configuration.Reader
import CardReboot.Text.Numeral
import CardReboot.Tool.Device

/-!
# The command line

Arguments are read from left to right, and the first one that settles what to do
ends the reading: a request for the version or for help, or a misuse.  An option
takes the rest of its argument or else the next argument as its value, but not
one that looks like an option itself; only numbers may be negative.  Every
option but the one for cases may be given once.
-/

namespace CardReboot

/-- The options that take a value. -/
inductive OptionName
  | config
  | case
  | logLevel
  | controllerCards
  | linecards
  | fabrics
  deriving DecidableEq, Repr

namespace OptionName

def long : OptionName → String
  | .config => "config"
  | .case => "case"
  | .logLevel => "log-level"
  | .controllerCards => "num-controller-cards"
  | .linecards => "num-linecards"
  | .fabrics => "num-fabrics"

def all : List OptionName := [.config, .case, .logLevel, .controllerCards, .linecards, .fabrics]

def ofLong? (name : String) : Option OptionName := all.find? fun o => o.long == name

def ofShort? : Char → Option OptionName
  | 'c' => some .config
  | 'l' => some .logLevel
  | _ => none

def takesNumber : OptionName → Bool
  | .controllerCards | .linecards | .fabrics => true
  | _ => false

end OptionName

/-- What the options say. -/
structure Options where
  file : Option String := none
  cases : List RebootCase := []
  logLevel : Option String := none
  controllerCards : Option Int := none
  linecards : Option Int := none
  fabrics : Option Int := none
  deriving DecidableEq, Repr

/-- What a command line asks for. -/
inductive Invocation
  | run (options : Options)
  | version
  | help
  | misuse
  deriving DecidableEq, Repr

/-- One argument by its looks. -/
inductive Argument
  | attached (option : OptionName) (value : String)
  | awaiting (option : OptionName)
  | version
  | help
  | separator
  | other
  deriving DecidableEq, Repr

namespace Argument

/-- An argument behind two hyphens. -/
def ofLong (text : List Char) : Argument :=
  let name := String.ofList (text.takeWhile (· != '='))
  match OptionName.ofLong? name, text.dropWhile (· != '=') with
  | some option, [] => .awaiting option
  | some option, _ :: value => .attached option (String.ofList value)
  | none, [] => if name = "version" then .version else if name = "help" then .help else .other
  | none, _ => .other

/-- An argument behind one hyphen. -/
def ofShort (first : Char) (rest : List Char) : Argument :=
  match OptionName.ofShort? first, rest with
  | some option, [] => .awaiting option
  | some option, '=' :: value => .attached option (String.ofList value)
  | some option, value => .attached option (String.ofList value)
  | none, _ => if first = 'V' then .version else if first = 'h' then .help else .other

def ofText (text : String) : Argument :=
  match text.toList with
  | ['-', '-'] => .separator
  | '-' :: '-' :: name => ofLong name
  | '-' :: first :: rest => ofShort first rest
  | _ => .other

end Argument

namespace Options

/-- A number of cards, in a signed word of thirty-two bits. -/
def number? (value : String) : Option Int :=
  Numeral.readInteger? (-Nat.pow 2 31) (Nat.pow 2 31) value.toList

/-- Sets what may be set once. -/
def once {α : Type} (value : α) : Option α → Option (Option α)
  | none => some (some value)
  | some _ => none

/-- Takes the value of an option; nothing when it is refused. -/
def take (o : Options) (value : String) : OptionName → Option Options
  | .config =>
      if value = "" then none else do return { o with file := ← once value o.file }
  | .case =>
      match RebootCase.parse value with
      | .ok case => some { o with cases := o.cases ++ [case] }
      | .error _ => none
  | .logLevel => do return { o with logLevel := ← once value o.logLevel }
  | .controllerCards => do
      return { o with controllerCards := ← once (← number? value) o.controllerCards }
  | .linecards => do return { o with linecards := ← once (← number? value) o.linecards }
  | .fabrics => do return { o with fabrics := ← once (← number? value) o.fabrics }

/-- Whether the next argument can be the value of an option. -/
def isValue (option : OptionName) (text : String) : Bool :=
  match text.toList with
  | '-' :: c :: rest => option.takesNumber && (c :: rest).all Text.isAsciiDigit
  | _ => true

end Options

namespace Invocation

/-- Reads the arguments that are left. -/
def ofArguments : List String → Options → Invocation
  | [], options => .run options
  | text :: rest, options =>
      match Argument.ofText text with
      | .version => .version
      | .help => .help
      | .separator => if rest.isEmpty then .run options else .misuse
      | .other => .misuse
      | .attached option value =>
          match options.take value option with
          | some options => ofArguments rest options
          | none => .misuse
      | .awaiting option =>
          match rest with
          | [] => .misuse
          | value :: more =>
              if Options.isValue option value then
                match options.take value option with
                | some options => ofArguments more options
                | none => .misuse
              else .misuse

def parse (arguments : List String) : Invocation := ofArguments arguments {}

end Invocation

namespace Options

/-- The numbers of cards in place of the configured ones. -/
def override (o : Options) (t : Topology) : Topology :=
  { t with
    controllerCards := (o.controllerCards.map ExpectedCount.mk).getD t.controllerCards
    linecards := (o.linecards.map ExpectedCount.mk).getD t.linecards
    fabrics := (o.fabrics.map ExpectedCount.mk).getD t.fabrics }

/-- The configuration to run with, from the one that was loaded. -/
def configuration (o : Options) (loaded : Outcome Configuration) : Outcome Configuration := do
  let c ← loaded
  let c := { c with topology := o.override c.topology }
  c.check
  return c

/-- The cases to run: all of them when none is named. -/
def selectedCases (o : Options) : List RebootCase :=
  if o.cases.isEmpty then RebootCase.all else o.cases

end Options

/-- The campaign of a configuration, with the generator that it configures. -/
def Configuration.campaign (c : Configuration) (patience : Nat) : Campaign :=
  ⟨c, Tool.hasGenerator c.traffic, patience⟩

/-- The cases of a campaign, carried out on the host. -/
def Campaign.onHost (c : Campaign) (cases : List RebootCase) (start : Instant) :
    Dialogue host (Option (List CaseReport)) := do
  let carry := Tool.carry c.configuration.target c.configuration.traffic
  let (reports, _) ← ((c.runCases cases).startingAt start).carryOut carry
  return reports

/-- The line that tells the version. -/
def versionLine : String := "reboot-verify 0.1.0"

/-- The line that tells how the program is called. -/
def usageLine : String := "Usage: reboot-verify [OPTIONS]"

/-- How the program ends. -/
inductive ExitStatus
  | success
  | failure
  | usage
  deriving DecidableEq, Repr

namespace ExitStatus

def code : ExitStatus → Nat
  | .success => 0
  | .failure => 1
  | .usage => 2

/-- One failed case makes the whole run a failure. -/
def ofReports (reports : List CaseReport) : ExitStatus :=
  if reports.any fun r => r.verdict.isFailed then .failure else .success

end ExitStatus

end CardReboot
