import SccpConfig.CString

/-!
# Numbers read with `sscanf`

The converters read numbers with `sscanf` directives `%i`, `%d` and `%30d`. A
directive skips white space, reads an optional sign and then digits: decimal for
`%d`, and for `%i` hexadecimal after `0x`, octal after a leading `0`, decimal
otherwise. A width bounds the characters the directive may read. C leaves a
value outside `int` undefined; here it is the unbounded integer.
-/

namespace SccpConfig

set_option autoImplicit false

/-- The value of `c` as a digit of base `b`, if it is one. -/
def digitIn (b : Nat) (c : Char) : Option Nat :=
  let v :=
    if c.isDigit then c.toNat - '0'.toNat
    else if 'a' ≤ c ∧ c ≤ 'z' then c.toNat - 'a'.toNat + 10
    else if 'A' ≤ c ∧ c ≤ 'Z' then c.toNat - 'A'.toNat + 10
    else b
  if v < b then some v else none

/-- The longest run of base-`b` digits at the front, and what follows it. -/
def takeDigits (b : Nat) : List Char → List Nat × List Char
  | [] => ([], [])
  | c :: cs =>
    match digitIn b c with
    | some d => ((d :: (takeDigits b cs).1), (takeDigits b cs).2)
    | none => ([], c :: cs)

/-- The number a run of base-`b` digits denotes. -/
def digitsValue (b : Nat) (ds : List Nat) : Nat :=
  ds.foldl (fun n d => b * n + d) 0

/-- One integer directive on input whose white space is already skipped: the
value and the rest, none when no digit follows the sign. `base0` is `%i`. -/
def scanNumber (base0 : Bool) (s : List Char) : Option (Int × List Char) :=
  let (neg, t) : Bool × List Char :=
    match s with
    | '-' :: t => (true, t)
    | '+' :: t => (false, t)
    | t => (false, t)
  let (b, t) : Nat × List Char :=
    if base0 then
      match t with
      | '0' :: x :: u => if (x = 'x' ∨ x = 'X') ∧ (u.head?.bind (digitIn 16)).isSome then (16, u) else (8, t)
      | _ => (10, t)
    else (10, t)
  match takeDigits b t with
  | ([], _) => none
  | (ds, rest) => some (if neg then -(digitsValue b ds : Int) else digitsValue b ds, rest)

/-- An integer directive of the given width on input whose white space is skipped. -/
def scanField (base0 : Bool) (width : Option Nat) (s : List Char) : Option (Int × List Char) :=
  match width with
  | none => scanNumber base0 s
  | some w => (scanNumber base0 (s.take w)).map fun r => (r.1, r.2 ++ s.drop w)

/-- `sscanf(value, "%i", &n) == 1` (or `"%d"` when `base0` is false): the number
read, none when the call converts nothing. -/
def sscanfInt (base0 : Bool) (value : String) : Option Int :=
  (scanField base0 none (value.data.dropWhile isSpace)).map Prod.fst

/-- What `sscanf(piece, "%30d-%30d", &start, &finish)` returns (`-1` is EOF), and the
values it stores. -/
def sscanfRange (piece : String) : Int × Option Int × Option Int :=
  match piece.data.dropWhile isSpace with
  | [] => (-1, none, none)
  | s =>
    match scanField false (some 30) s with
    | none => (0, none, none)
    | some (a, '-' :: rest) =>
      match scanField false (some 30) (rest.dropWhile isSpace) with
      | some (b, _) => (2, some a, some b)
      | none => (1, some a, none)
    | some (a, _) => (1, some a, none)

/-- What `sscanf(piece, "%30d", &start)` returns (`-1` is EOF), and the value it
stores. -/
def sscanfSingle (piece : String) : Int × Option Int :=
  match piece.data.dropWhile isSpace with
  | [] => (-1, none)
  | s =>
    match scanField false (some 30) s with
    | none => (0, none)
    | some (a, _) => (1, some a)

end SccpConfig
