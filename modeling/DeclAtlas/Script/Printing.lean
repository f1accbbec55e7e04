import DeclAtlas.Text.CharClass
import DeclAtlas.Text.Utf8

/-!
# Printing by scripts

Scripts print with `echo` and `printf`.  Both replace escapes by bytes, so the outcome need not be
text; `printf` uses its format again as long as there are arguments left.
-/

namespace DeclAtlas.Script

/-- Whether a character is an octal digit. -/
def isOctal (c : Char) : Bool := '0' ≤ c && c ≤ '7'

/-- The octal digits at the beginning of a text, at most `n`. -/
def octalRun (n : Nat) (s : List Char) : List Char := (s.take n).takeWhile isOctal

/-- The number that octal digits write. -/
def octalValue (s : List Char) : Nat := s.foldl (fun n c => 8 * n + (c.toNat - '0'.toNat)) 0

/-- The byte of an escaped letter. -/
def escapedByte? (c : Char) : Option UInt8 :=
  match c with
  | 'a' => some 7
  | 'b' => some 8
  | 't' => some 9
  | 'n' => some 10
  | 'v' => some 11
  | 'f' => some 12
  | 'r' => some 13
  | '\\' => some 92
  | _ => none

/-- What escapes in a text stand for; `zero` tells whether octal numbers begin with a zero that does
not count, and `skip` characters are passed over.  An escaped `c` ends the output. -/
def unescape (zero : Bool) (skip : Nat) : List Char → Bytes × Bool
  | [] => ([], false)
  | c :: r =>
    match skip with
    | n + 1 => unescape zero n r
    | 0 =>
      let go := fun (bs : Bytes) (skip : Nat) =>
        let (rest, ended) := unescape zero skip r
        (bs ++ rest, ended)
      if c = '\\' then
        match r with
        | [] => ([92], false)
        | d :: t =>
          match escapedByte? d with
          | some b => go [b] 1
          | none =>
            if d = 'c' then ([], true)
            else if zero then
              if d = '0' then
                let digits := octalRun 3 t
                go [(octalValue digits).toUInt8] (1 + digits.length)
              else go [92] 0
            else
              let digits := octalRun 3 r
              if digits.isEmpty then go [92] 0
              else go [(octalValue digits).toUInt8] digits.length
      else go (String.utf8EncodeChar c) 0

/-- Arguments joined by spaces. -/
def joined (args : List String) : List Char := (" ".intercalate args).toList

/-- What `echo` prints, escapes replaced. -/
def echo (args : List String) : Bytes :=
  let (quiet, args) := match args with
    | "-n" :: r => (true, r)
    | r => (false, r)
  let (bs, ended) := unescape true 0 (joined args)
  if quiet || ended then bs else bs ++ [10]

/-- What `echo` prints, its arguments as they are. -/
def echoPlainly (args : List String) : Bytes :=
  match args with
  | "-n" :: r => Text.encode (joined r)
  | r => Text.encode (joined r) ++ [10]

/-- A part of a format. -/
inductive FormatPart where
  /-- A character as it stands, or an escape that begins with it. -/
  | text (s : List Char)
  /-- An argument, padded to a width, on the right if `left` is set, with zeros if `zeros` is. -/
  | argument (left zeros : Bool) (width : Nat) (kind : Char)
  deriving Repr

/-- Puts a character before the parts of a format. -/
def consChar (c : Char) (ps : List FormatPart) : List FormatPart :=
  match ps with
  | .text s :: ps => .text (c :: s) :: ps
  | ps => .text [c] :: ps

/-- The parts of a format; `skip` characters are passed over. -/
def formatParts (skip : Nat) : List Char → List FormatPart
  | [] => []
  | c :: r =>
    match skip with
    | n + 1 => formatParts n r
    | 0 =>
      if c != '%' then consChar c (formatParts 0 r)
      else
        let flags := r.takeWhile fun d => d == '-' || d == '0'
        let digits := (r.drop flags.length).takeWhile Char.isDigit
        let used := flags.length + digits.length
        match r.drop used with
        | [] => [.text ['%']]
        | '%' :: _ => consChar '%' (formatParts (used + 1) r)
        | k :: _ =>
          .argument (flags.contains '-') (flags.contains '0') ((Text.asciiNat? digits).getD 0) k ::
            formatParts (used + 1) r

/-- Digits of a number in some base. -/
def digitsText (base n : Nat) : List Char := Nat.toDigits base n

/-- The bytes of an argument. -/
def argumentBytes (kind : Char) (arg : String) : Bytes :=
  let n := (Text.asciiNat? arg.toList).getD 0
  match kind with
  | 'b' => (unescape true 0 arg.toList).1
  | 'c' => Text.encode (arg.toList.take 1)
  | 'd' => match arg.toList with
    | '-' :: r => Text.encode ('-' :: digitsText 10 ((Text.asciiNat? r).getD 0))
    | _ => Text.encode (digitsText 10 n)
  | 'i' => Text.encode (digitsText 10 n)
  | 'u' => Text.encode (digitsText 10 n)
  | 'o' => Text.encode (digitsText 8 n)
  | 'x' => Text.encode (digitsText 16 n)
  | _ => Text.encodeString arg

/-- Bytes padded to a width. -/
def padded (left zeros : Bool) (width : Nat) (bs : Bytes) : Bytes :=
  let fill := List.replicate (width - bs.length) (if zeros && !left then 48 else 32)
  if left then bs ++ fill else fill ++ bs

/-- Fills in a format once; gives the bytes and the arguments that are left. -/
def fillOnce (args : List String) : List FormatPart → Bytes × List String
  | [] => ([], args)
  | .text s :: ps =>
    let (bs, rest) := fillOnce args ps
    ((unescape false 0 s).1 ++ bs, rest)
  | .argument left zeros width kind :: ps =>
    let (bs, rest) := fillOnce args.tail ps
    (padded left zeros width (argumentBytes kind (args.headD "")) ++ bs, rest)

/-- Whether a part of a format takes an argument. -/
def FormatPart.takesArgument : FormatPart → Bool
  | .text _ => false
  | .argument .. => true

/-- Fills in a format until no argument is left; `fuel` bounds how often. -/
def fill (fuel : Nat) (ps : List FormatPart) (args : List String) : Bytes :=
  match fuel with
  | 0 => []
  | fuel + 1 =>
    let (bs, rest) := fillOnce args ps
    if rest.isEmpty || !ps.any FormatPart.takesArgument then bs else bs ++ fill fuel ps rest

/-- What `printf` prints. -/
def printFormat (format : String) (args : List String) : Bytes :=
  fill (args.length + 1) (formatParts 0 format.toList) args

end DeclAtlas.Script
