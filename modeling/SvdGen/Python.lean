import Mathlib.Data.List.Basic
import Mathlib.Data.Int.Defs
import Mathlib.Algebra.Group.Nat.Basic
import SvdGen.CaseFolding

/-! The Python builtins the converter leans on, as it uses them: `hex`, `str.strip`,
`str.casefold` (over `CaseFolding`'s table), the `'%s'` search done with `str.find`, and the
double that the true division of integers rounds to. -/
namespace SvdGen

/-- Python's `hex`: lower-case digits behind `0x`, the sign in front. -/
def hex (num : Int) : String :=
  (if num < 0 then "-0x" else "0x") ++ String.mk (Nat.toDigits 16 num.natAbs)

/-- `hex_or_none`: `None` stays `None`, everything else becomes its hex string. -/
def hexOrNone (num : Option Int) : Option String := num.map hex

@[simp] theorem hexOrNone_some (num : Int) : hexOrNone (some num) = some (hex num) := rfl
@[simp] theorem hexOrNone_none : hexOrNone none = none := rfl

example : hex 16 = "0x10" := by decide
example : hex (-255) = "-0xff" := by decide

/-! ### Reading `hex` back -/

/-- The value of a lower-case hex digit. -/
def hexDigitValue (c : Char) : Option Nat :=
  if '0' ≤ c ∧ c ≤ '9' then some (c.toNat - '0'.toNat)
  else if 'a' ≤ c ∧ c ≤ 'f' then some (c.toNat - 'a'.toNat + 10)
  else none

/-- Hex digits read most significant first onto the value `acc` read so far. -/
def readHexDigits (acc : Nat) : List Char → Option Nat
  | [] => some acc
  | c :: cs => (hexDigitValue c).bind fun d => readHexDigits (acc * 16 + d) cs

/-- A reader of the texts `hex` writes: `0x` or `-0x`, then at least one digit. -/
def parseHex (s : String) : Option Int :=
  match s.toList with
  | '-' :: '0' :: 'x' :: d :: ds => (readHexDigits 0 (d :: ds)).map fun n => -(n : Int)
  | '0' :: 'x' :: d :: ds => (readHexDigits 0 (d :: ds)).map fun n => (n : Int)
  | _ => none

theorem readHexDigits_append (acc : Nat) (l₁ l₂ : List Char) :
    readHexDigits acc (l₁ ++ l₂) = (readHexDigits acc l₁).bind (readHexDigits · l₂) := by
  induction l₁ generalizing acc with
  | nil => rfl
  | cons c cs ih =>
    simp only [List.cons_append, readHexDigits, Option.bind_assoc]
    congr 1
    funext d
    exact ih _

theorem hexDigitValue_digitChar {k : Nat} (hk : k < 16) : hexDigitValue (Nat.digitChar k) = some k := by
  rcases k with _ | _ | _ | _ | _ | _ | _ | _ | _ | _ | _ | _ | _ | _ | _ | _ | k
  all_goals first | rfl | omega

theorem toDigitsCore_succ (b fuel n : Nat) (ds : List Char) :
    Nat.toDigitsCore b (fuel + 1) n ds = if n / b = 0 then Nat.digitChar (n % b) :: ds
      else Nat.toDigitsCore b fuel (n / b) (Nat.digitChar (n % b) :: ds) := rfl

theorem toDigitsCore_append (b fuel n : Nat) (ds : List Char) :
    Nat.toDigitsCore b fuel n ds = Nat.toDigitsCore b fuel n [] ++ ds := by
  induction fuel generalizing n ds with
  | zero => rfl
  | succ fuel ih =>
    rw [toDigitsCore_succ, toDigitsCore_succ]
    split
    · rfl
    · rw [ih _ (_ :: ds), ih _ [_]]
      simp

theorem readHexDigits_toDigitsCore {fuel n : Nat} (hn : n < fuel) :
    readHexDigits 0 (Nat.toDigitsCore 16 fuel n []) = some n := by
  induction fuel generalizing n with
  | zero => omega
  | succ fuel ih =>
    have hd := hexDigitValue_digitChar (Nat.mod_lt n (by decide : 16 > 0))
    rw [toDigitsCore_succ]
    split
    case isTrue h =>
      simp [readHexDigits, hd]
      omega
    case isFalse h =>
      rw [toDigitsCore_append, readHexDigits_append, ih (by omega)]
      simp [readHexDigits, hd]
      omega

theorem toDigits_ne_nil {b : Nat} (n : Nat) : Nat.toDigits b n ≠ [] := by
  show Nat.toDigitsCore b (n + 1) n [] ≠ []
  rw [toDigitsCore_succ]
  split
  · simp
  · rw [toDigitsCore_append]
    simp

/-- Every text `hex` writes reads back as the integer it was written from. -/
theorem parseHex_of_hex (num : Int) : parseHex (hex num) = some num := by
  obtain ⟨d, ds, hd⟩ : ∃ d ds, Nat.toDigits 16 num.natAbs = d :: ds :=
    List.exists_cons_of_ne_nil (toDigits_ne_nil _)
  have hread : readHexDigits 0 (d :: ds) = some num.natAbs := by
    rw [← hd]
    exact readHexDigits_toDigitsCore (Nat.lt_succ_self _)
  unfold hex
  rw [hd]
  split_ifs with hneg
  · show (readHexDigits 0 (d :: ds)).map (fun n => -(n : Int)) = some num
    rw [hread]
    exact congrArg some (by dsimp only; omega)
  · show (readHexDigits 0 (d :: ds)).map (fun n => (n : Int)) = some num
    rw [hread]
    exact congrArg some (by dsimp only; omega)

/-- Every value `hex_or_none` writes reads back as itself: `None` as no text, an integer
through the text `hex` writes. -/
theorem parseHex_hexOrNone (num : Option Int) : (hexOrNone num).bind parseHex = num := by
  cases num <;> simp [parseHex_of_hex]

example : parseHex "-0x1f" = some (-31) := by decide

/-- Python's `str.isspace` on one character: the Unicode whitespace `str.strip()` removes. -/
def isSpace (c : Char) : Bool :=
  let n := c.toNat
  (9 ≤ n && n ≤ 13) || (28 ≤ n && n ≤ 32) || n == 0x85 || n == 0xA0 || n == 0x1680 ||
    (0x2000 ≤ n && n ≤ 0x200A) || n == 0x2028 || n == 0x2029 || n == 0x202F ||
    n == 0x205F || n == 0x3000

/-- `str.strip()` without arguments: leading and trailing whitespace removed. -/
def strip (s : String) : String :=
  String.mk ((s.toList.dropWhile isSpace).reverse.dropWhile isSpace).reverse

example : strip " \n x y\t" = "x y" := by decide

/-- The characters of a text that are not whitespace. -/
def nonSpace (s : String) : List Char := s.toList.filter fun c => !isSpace c

@[simp] theorem nonSpace_empty : nonSpace "" = [] := rfl

theorem nonSpace_append (a b : String) : nonSpace (a ++ b) = nonSpace a ++ nonSpace b := by
  simp [nonSpace, String.toList]

theorem filter_dropWhile_self (p : Char → Bool) (l : List Char) :
    (l.dropWhile p).filter (fun c => !p c) = l.filter (fun c => !p c) := by
  induction l with
  | nil => rfl
  | cons c l ih => by_cases h : p c <;> simp [List.dropWhile, h, ih]

/-- Stripping removes whitespace only: every other character stays, in order. -/
@[simp] theorem nonSpace_strip (s : String) : nonSpace (strip s) = nonSpace s := by
  simp [nonSpace, strip, String.toList, List.filter_reverse, filter_dropWhile_self]

/-- A prefix of what `dropWhile` left starts where that did. -/
theorem dropWhile_of_append_eq {α : Type} {p : α → Bool} {l l₁ l₂ : List α}
    (h : l₁ ++ l₂ = l.dropWhile p) : l₁.dropWhile p = l₁ := by
  cases l₁ with
  | nil => rfl
  | cons x xs =>
    have hx := List.head?_dropWhile_not p l
    rw [← h] at hx
    simp only [List.cons_append, List.head?_cons] at hx
    simp [hx]

/-- A stripped text has nothing left to strip. -/
theorem strip_strip (s : String) : strip (strip s) = strip s := by
  let a := s.toList.dropWhile isSpace
  let b := a.reverse.dropWhile isSpace
  have hsuf : b <:+ a.reverse := List.dropWhile_suffix isSpace
  obtain ⟨t, ht⟩ := hsuf
  have hpre : b.reverse ++ t.reverse = a := by rw [← List.reverse_append, ht, List.reverse_reverse]
  show String.mk ((b.reverse.dropWhile isSpace).reverse.dropWhile isSpace).reverse =
    String.mk b.reverse
  rw [dropWhile_of_append_eq hpre, List.reverse_reverse, dropWhile_of_append_eq (List.append_nil b)]

@[simp] theorem strip_empty : strip "" = "" := rfl

/-- `case_compare`: equality of the case-folded texts. -/
def caseCompare (left right : String) : Bool := casefold left == casefold right

example : caseCompare "Écho" "éCHO" = true := by decide

/-- `text.find('%s') >= 0`: whether the placeholder `%s` occurs in a text. -/
def hasPlaceholder : List Char → Bool
  | '%' :: 's' :: _ => true
  | _ :: cs => hasPlaceholder cs
  | [] => false

theorem hasPlaceholder_append_right (l : List Char) : hasPlaceholder (l ++ ['%', 's']) = true := by
  induction l with
  | nil => rfl
  | cons c l ih =>
    match c, l with
    | '%', 's' :: _ => rfl
    | c, [] => by_cases h : c = '%' <;> simp [hasPlaceholder, h]
    | c, d :: l => by_cases h : c = '%' ∧ d = 's' <;> simp_all [hasPlaceholder]

/-! ### The double a true division rounds to -/

/-- The double nearest to `n`, ties to even: `n` itself below `2 ^ 53`, else `n` with all but
its 53 leading bits rounded off. -/
def roundDouble (n : Nat) : Nat :=
  if n < 2 ^ 53 then n else
    let k := n.log2 - 52
    let q := n / 2 ^ k
    let r := n % 2 ^ k
    (if 2 ^ (k - 1) < r ∨ r = 2 ^ (k - 1) ∧ q % 2 = 1 then q + 1 else q) * 2 ^ k

end SvdGen
