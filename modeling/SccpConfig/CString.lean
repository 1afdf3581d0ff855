import Mathlib.Data.List.Basic

/-!
# C strings of the configuration module

`sccp_config.c` handles option names and values as NUL-terminated strings. A
string is modelled as a Lean `String` whose characters are the bytes before the
terminator; a pointer that may be NULL is an `Option String`. The helpers below
are the C library and chan-sccp string routines the module calls, each written
over the character list so that concrete runs evaluate by `decide`.
-/

namespace SccpConfig

set_option autoImplicit false

/-- `strcasecmp a b == 0`: the strings agree up to ASCII case. -/
def strcasecmpEq (a b : String) : Bool :=
  decide (a.data.map Char.toLower = b.data.map Char.toLower)

theorem strcasecmpEq_iff (a b : String) :
    strcasecmpEq a b = true ↔ a.data.map Char.toLower = b.data.map Char.toLower := by
  simp [strcasecmpEq]

@[simp] theorem strcasecmpEq_self (a : String) : strcasecmpEq a a = true := by
  simp [strcasecmpEq]

theorem strcasecmpEq_comm (a b : String) : strcasecmpEq a b = strcasecmpEq b a := by
  simp only [strcasecmpEq, eq_comm]

theorem strcasecmpEq_trans {a b c : String} (h₁ : strcasecmpEq a b = true)
    (h₂ : strcasecmpEq b c = true) : strcasecmpEq a c = true := by
  rw [strcasecmpEq_iff] at *
  exact h₁.trans h₂

theorem strcasecmpEq_congr_right (a : String) {b c : String} (h : strcasecmpEq b c = true) :
    strcasecmpEq a b = strcasecmpEq a c := by
  simp only [strcasecmpEq, (strcasecmpEq_iff b c).mp h]

theorem strcasecmpEq_congr_left {a b : String} (h : strcasecmpEq a b = true) (c : String) :
    strcasecmpEq a c = strcasecmpEq b c := by
  rw [strcasecmpEq_comm, strcasecmpEq_congr_right _ h, strcasecmpEq_comm]

theorem strcasecmpEq_length {a b : String} (h : strcasecmpEq a b = true) : a.length = b.length := by
  obtain ⟨a⟩ := a
  obtain ⟨b⟩ := b
  simpa using congrArg List.length ((strcasecmpEq_iff _ _).mp h)

/-- `sccp_strlen_zero`: the pointer is NULL or the string is empty. -/
def sccpStrlenZero : Option String → Bool
  | none => true
  | some s => s.isEmpty

@[simp] theorem sccpStrlenZero_some (s : String) : sccpStrlenZero (some s) = s.isEmpty := rfl

/-- `sccp_copy_string` and `pbx_copy_string` into an array of `size` bytes: at most
`size - 1` characters are kept and the copy is terminated. -/
def sccpCopyString (s : String) (size : Nat) : String :=
  ⟨s.data.take (size - 1)⟩

theorem sccpCopyString_of_lt {s : String} {size : Nat} (h : s.length < size) :
    sccpCopyString s size = s := by
  simp only [sccpCopyString]
  rw [List.take_of_length_le (by simp only [String.length] at h; omega)]

/-- The pieces that repeated `strsep(&p, delim)` returns until it returns NULL: an
empty string gives one empty piece, and a delimiter at either end gives an empty
piece there. -/
def strsepPieces (s : String) (delim : Char) : List String :=
  (s.data.splitOn delim).map String.mk

theorem strsepPieces_ne_nil (s : String) (delim : Char) : strsepPieces s delim ≠ [] := by
  simp only [strsepPieces, ne_eq, List.map_eq_nil_iff]
  exact List.splitOnP_ne_nil _ _

/-- C `isspace` in the "C" locale. -/
def isSpace (c : Char) : Bool :=
  c = ' ' || c = '\t' || c = '\n' || c = '\x0b' || c = '\x0c' || c = '\r'

/-- `pbx_strip`: leading and trailing white space removed. -/
def pbxStrip (s : String) : String :=
  ⟨((s.data.dropWhile isSpace).reverse.dropWhile isSpace).reverse⟩

/-- The value of a decimal digit. -/
def digitValue (c : Char) : Nat := c.toNat - '0'.toNat

/-- The leading decimal digits of a string and what follows them. -/
def spanDigits (s : List Char) : List Char × List Char :=
  s.span Char.isDigit

/-- The number a run of decimal digits denotes. -/
def decimalValue (ds : List Char) : Nat :=
  ds.foldl (fun n c => 10 * n + digitValue c) 0

/-- `atoi`: white space, an optional sign and the longest run of decimal digits;
`0` when there is no digit. C leaves an out-of-range result undefined; here the
value is the unbounded integer. -/
def atoi (s : String) : Int :=
  let rest := s.data.dropWhile isSpace
  match rest with
  | '-' :: t => -(decimalValue (spanDigits t).1 : Int)
  | '+' :: t => decimalValue (spanDigits t).1
  | t => decimalValue (spanDigits t).1

/-- Modelled from the spec: `sccp_true` (in `sccp_utils.c`, not among the sources)
is the "trivial string to boolean conversion" of boolean options; the words it
accepts are the usual yes, true, y, t, 1 and on, in any case. -/
def sccpTrue (s : String) : Bool :=
  ["yes", "true", "y", "t", "1", "on"].any (strcasecmpEq s)

end SccpConfig
