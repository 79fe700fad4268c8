import CardReboot.Shell.Escape

/-!
# Formats

A format is a text with directives, each of which takes an argument and lays it
out.  The format is used again as long as it takes arguments and arguments are
left; an argument that is missing is empty or zero.  An argument that is no
number counts as the number at its start, and a warning is kept.
-/

namespace CardReboot.Shell

open Text

/-- Why an argument is not the number that it was read as. -/
inductive NumberFault
  | noNumber
  | moreThanNumber
  | outOfRange
  deriving DecidableEq, Repr

def NumberFault.message : NumberFault → String
  | noNumber => "expected numeric value"
  | moreThanNumber => "not completely converted"
  | outOfRange => "Numerical result out of range"

structure ReadNumber where
  value : Int := 0
  fault : Option NumberFault := none
  deriving DecidableEq, Repr

/-- The blanks that may stand before a number. -/
def isSpace (c : Char) : Bool := c == ' ' || (9 ≤ c.toNat && c.toNat ≤ 13)

/-- The base that a number is written in, and the number without the mark of
its base. -/
def baseOf (text : List Char) : Nat × List Char :=
  match text with
  | '0' :: x :: d :: rest =>
      if (x = 'x' ∨ x = 'X') ∧ isDigitOf 16 d then (16, d :: rest)
      else (8, '0' :: x :: d :: rest)
  | '0' :: rest => (8, '0' :: rest)
  | text => (10, text)

/-- Keeps a value between two bounds. -/
def clamp (least greatest value : Int) : ReadNumber :=
  if value < least then ⟨least, some .outOfRange⟩
  else if greatest < value then ⟨greatest, some .outOfRange⟩
  else ⟨value, none⟩

/-- Fits a number into 64 bits.  Without a sign, the negative of a number that
fits counts from the other end. -/
def fit (signed negative : Bool) (n : Nat) : ReadNumber :=
  if signed then clamp (-Nat.pow 2 63) (Nat.pow 2 63 - 1) (if negative then -n else n)
  else if Nat.pow 2 64 ≤ n then ⟨Nat.pow 2 64 - 1, some .outOfRange⟩
  else ⟨if negative then (-n) % Nat.pow 2 64 else n, none⟩

/-- The number that an argument is.  After a quote it is the octet that follows. -/
def readNumber (signed : Bool) (argument : List Char) : ReadNumber :=
  match argument with
  | [] => {}
  | c :: rest =>
      if c = '"' ∨ c = '\'' then ⟨((encode rest).headD 0).toNat, none⟩
      else
        let (negative, text) := splitSign (argument.dropWhile isSpace)
        let (base, text) := baseOf text
        let digits := text.takeWhile (isDigitOf base)
        let number := fit signed negative (numeral base digits)
        if digits.isEmpty then ⟨0, some .noNumber⟩
        else if digits.length < text.length then { number with fault := some .moreThanNumber }
        else number

/-- A width or a number of places, given or taken from an argument. -/
inductive Measure
  | fixed (n : Nat)
  | argument
  deriving DecidableEq, Repr

def Measure.ofText (text : List Char) : Measure × List Char :=
  match text with
  | '*' :: rest => (.argument, rest)
  | text => (.fixed (numeral 10 (text.takeWhile isAsciiDigit)), text.dropWhile isAsciiDigit)

def isFlag (c : Char) : Bool := c == '#' || c == '-' || c == '+' || c == ' ' || c == '0'

/-- A directive, without its percent sign: what stands before the conversion,
the conversion, and how many characters they have. -/
structure Directive where
  flags : List Char
  width : Measure
  places : Option Measure
  conversion : Option Char
  length : Nat
  deriving DecidableEq, Repr

/-- The directive at the start of a text. -/
def Directive.ofText (text : List Char) : Directive :=
  let flags := text.takeWhile isFlag
  let (width, rest) := Measure.ofText (text.dropWhile isFlag)
  let (places, rest) :=
    match rest with
    | '.' :: rest =>
        let (places, rest) := Measure.ofText rest
        (some places, rest)
    | rest => (none, rest)
  ⟨flags, width, places, rest.head?, text.length - rest.length + 1⟩

/-- How one argument is laid out. -/
structure Layout where
  flags : List Char
  toLeft : Bool
  width : Nat
  places : Option Nat
  deriving DecidableEq, Repr

namespace Layout

def pad (l : Layout) (octets : Octets) : Octets :=
  let padding := List.replicate (l.width - octets.length) 32
  if l.toLeft then octets ++ padding else padding ++ octets

/-- The octets, or as many of them as there are places. -/
def cut (l : Layout) (octets : Octets) : Octets :=
  match l.places with
  | some n => octets.take n
  | none => octets

/-- A number behind its sign, with as many digits as there are places and
filled up with zeros or blanks. -/
def padNumber (l : Layout) (sign : List Char) (digits : List Char) : Octets :=
  let digits := List.replicate (l.places.getD 1 - digits.length) '0' ++ digits
  let zeros :=
    if l.flags.contains '0' && !l.toLeft && l.places.isNone then
      l.width - (sign.length + digits.length)
    else 0
  l.pad (encode (sign ++ List.replicate zeros '0' ++ digits))

/-- The digits of a number.  Zero has none. -/
def digitsOf (base n : Nat) : List Char := if n = 0 then [] else Nat.toDigits base n

def signedNumber (l : Layout) (value : Int) : Octets :=
  let sign :=
    if value < 0 then ['-']
    else if l.flags.contains '+' then ['+']
    else if l.flags.contains ' ' then [' ']
    else []
  l.padNumber sign (digitsOf 10 value.natAbs)

/-- An octal number.  The flag for another form puts a zero before it. -/
def octalNumber (l : Layout) (n : Nat) : Octets :=
  let digits := digitsOf 8 n
  if l.flags.contains '#' && digits.length ≥ l.places.getD 0 then
    l.padNumber [] ('0' :: digits)
  else l.padNumber [] digits

/-- A number in base sixteen.  The flag for another form puts a mark before it. -/
def hexNumber (l : Layout) (mark : Char) (n : Nat) : Octets :=
  let digits := digitsOf 16 n
  l.padNumber (if l.flags.contains '#' && n ≠ 0 then ['0', mark] else [])
    (if mark = 'X' then digits.map Char.toUpper else digits)

end Layout

/-- What ends the use of a format. -/
inductive Halt
  /-- The escape that ends all printing. -/
  | stopped
  | missingConversion
  | unknownConversion (directive : List Char)
  deriving DecidableEq, Repr

/-- A number that was read from an argument with a fault. -/
structure Warning where
  argument : List Char
  fault : NumberFault
  deriving DecidableEq, Repr

def Warning.message (w : Warning) : String :=
  String.ofList w.argument ++ ": " ++ w.fault.message

/-- What a format has printed, the arguments it left, the warnings, and what
ended it, if anything did. -/
structure Formatted where
  octets : Octets := []
  arguments : List (List Char) := []
  warnings : List Warning := []
  halt : Option Halt := none
  deriving DecidableEq, Repr

/-- One format after another. -/
def Formatted.before (first second : Formatted) : Formatted :=
  { second with
    octets := first.octets ++ second.octets
    warnings := first.warnings ++ second.warnings }

/-- Takes a number from the arguments. -/
def takeNumber (signed : Bool) : List (List Char) → Int × List (List Char) × List Warning
  | [] => (0, [], [])
  | argument :: rest =>
      let number := readNumber signed argument
      (number.value, rest, number.fault.toList.map fun fault => ⟨argument, fault⟩)

/-- The size of a measure, which may have to be taken from the arguments. -/
def takeMeasure (arguments : List (List Char)) :
    Measure → Int × List (List Char) × List Warning
  | .fixed n => (n, arguments, [])
  | .argument => takeNumber true arguments

/-- Lays arguments out as a directive demands.  `text` is the directive as it is
written. -/
def Directive.apply (d : Directive) (text : List Char) (arguments : List (List Char)) :
    Formatted :=
  let (width, arguments, first) := takeMeasure arguments d.width
  let (places, arguments, second) :=
    match d.places with
    | none => ((-1 : Int), arguments, [])
    | some places => takeMeasure arguments places
  let l : Layout :=
    ⟨d.flags, d.flags.contains '-' || width < 0, width.natAbs,
      if places < 0 then none else some places.toNat⟩
  let warnings := first ++ second
  let number (signed : Bool) (layOut : Int → Octets) : Formatted :=
    let (value, arguments, third) := takeNumber signed arguments
    ⟨layOut value, arguments, warnings ++ third, none⟩
  let argument := arguments.headD []
  match d.conversion with
  | none => ⟨[], arguments, warnings, some .missingConversion⟩
  | some 's' => ⟨l.pad (l.cut (encode argument)), arguments.tail, warnings, none⟩
  | some 'c' => ⟨l.pad [(encode argument).headD 0], arguments.tail, warnings, none⟩
  | some 'b' =>
      let printed := unescape true argument
      ⟨l.pad (l.cut printed.octets), arguments.tail, warnings,
        if printed.stopped then some .stopped else none⟩
  | some 'd' | some 'i' => number true l.signedNumber
  | some 'u' => number false fun n => l.padNumber [] (Layout.digitsOf 10 n.toNat)
  | some 'o' => number false fun n => l.octalNumber n.toNat
  | some 'x' => number false fun n => l.hexNumber 'x' n.toNat
  | some 'X' => number false fun n => l.hexNumber 'X' n.toNat
  | some _ => ⟨[], arguments, warnings, some (.unknownConversion text)⟩

/-- Goes through a format once. -/
def formatOnce : List Char → List (List Char) → Formatted
  | [], arguments => { arguments := arguments }
  | '%' :: '%' :: rest, arguments =>
      Formatted.before { octets := [37] } (formatOnce rest arguments)
  | '%' :: rest, arguments =>
      let d := Directive.ofText rest
      let once := d.apply ('%' :: rest.take d.length) arguments
      if once.halt.isSome then once
      else once.before (formatOnce (rest.drop d.length) once.arguments)
  | c :: rest, arguments =>
      let plain := (c :: rest).takeWhile (· != '%')
      Formatted.before { octets := (unescape false plain).octets }
        (formatOnce ((c :: rest).drop (max 1 plain.length)) arguments)
termination_by text => text.length
decreasing_by all_goals (simp only [List.length_cons, List.length_drop]; omega)

/-- Goes through a format until no arguments are left. -/
def formatAll (text : List Char) : Nat → List (List Char) → Formatted
  | 0, arguments => { arguments := arguments }
  | rounds + 1, arguments =>
      let once := formatOnce text arguments
      if once.halt.isSome || once.arguments.isEmpty ||
          once.arguments.length == arguments.length then once
      else once.before (formatAll text rounds once.arguments)

/-- What a format prints for its arguments. -/
def format (text : List Char) (arguments : List (List Char)) : Formatted :=
  formatAll text (arguments.length + 1) arguments

end CardReboot.Shell
