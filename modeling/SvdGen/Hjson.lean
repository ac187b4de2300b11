import Mathlib.Data.List.Forall2
import SvdGen.Python

/-! The validated HJSON the converter reads. Each kind of dictionary is a record with one
field per key the code looks up, `none` standing for an absent key; the errors are those a
subscript, `min`, a true division, the two `SystemExit`s of the converter and the `pysvd` check
raise. -/
namespace SvdGen

/-- A bit field `fields[i]` of a register. `bitinfo` is reggen's `(bitmask, width, lsb)`. -/
structure Field where
  name : Option String
  desc : Option String
  bitinfo : Option (Int × Int × Int)
  swaccess : Option String
  deriving Repr, DecidableEq

/-- One entry of a register list, and equally each dictionary nested in one: a window's
register template and a multireg's body. `reserved` and `skipto` record only that the key
is present, which is all the code asks of them. -/
structure Reg where
  reserved : Bool
  skipto : Bool
  window : Option Reg
  sameaddr : Option (List Reg)
  multireg : Option Reg
  genregs : Option (List Reg)
  genoffset : Option Int
  name : Option String
  desc : Option String
  fields : Option (List Field)
  swaccess : Option String
  genbitsused : Option Int
  genresval : Option Int
  genresmask : Option Int
  items : Option Int
  genvalidbits : Option Int
  deriving Repr

/-- The empty dictionary `{}`, from which examples are built with `{ Reg.empty with .. }`. -/
def Reg.empty : Reg :=
  ⟨false,false,none,none,none,none,none,none,none,none,none,none,none,none,none,none⟩

/-- An interrupt `interrupt_list[i]`. -/
structure Irq where
  name : Option String
  deriving Repr, DecidableEq

/-- An IP block's register description: the value `ips[module['type']]`. -/
structure Ip where
  interruptList : Option (List Irq)
  registers : Option (List Reg)
  deriving Repr

/-- A module of the top-level module list; `base_addr` is the text topgen writes. -/
structure Module where
  name : Option String
  type : Option String
  baseAddr : Option String
  deriving Repr, DecidableEq

/-- The top-level configuration; `datawidth` is the text topgen writes. -/
structure Top where
  name : Option String
  datawidth : Option String
  module : Option (List Module)
  deriving Repr, DecidableEq

/-- What a conversion can raise. -/
inductive Error where
  /-- `KeyError(key)`: a subscript of an absent key, or of an unknown `swaccess` label. -/
  | keyError (key : String)
  /-- `ValueError('min() arg is an empty sequence')`. -/
  | emptyMin
  /-- `SystemExit('nesting "multireg" elements is not supported')`. -/
  | nestedMultireg
  /-- `SystemExit('could not determine register "genoffset": ...')`, followed by the
  HJSON dump of the register. -/
  | missingGenoffset (reg : Reg)
  /-- `AttributeError`: a window register without a `<name>` text to extend. -/
  | attributeError
  /-- `OverflowError('integer division result too large for a float')`. -/
  | overflowError
  /-- An exception of the `pysvd` parser, which rejects the finished tree. -/
  | invalid (message : String)
  deriving Repr

/-- `d[key]`: the value, or `KeyError(key)` when the key is absent. -/
def getitem {α : Type} (value : Option α) (key : String) : Except Error α :=
  match value with
  | some a => pure a
  | none => throw (.keyError key)

@[simp] theorem getitem_none {α : Type} (key : String) :
    getitem (none : Option α) key = throw (.keyError key) := rfl

theorem getitem_eq_ok {α : Type} {value : Option α} {key : String} {a : α} :
    getitem value key = .ok a ↔ value = some a := by
  cases value <;> simp [getitem, pure, Except.pure, throw, throwThe, MonadExceptOf.throw]

/-- `int(n/8)`. The true division gives the double nearest to `n / 8`, which is the double
nearest to `n` over 8, and raises `OverflowError` when that is `2 ^ 1024` or more; `int`
truncates the double toward zero. Below `2 ^ 53`, as in CPython, `n` and `8` are divided as
doubles, exactly. -/
def intDiv8 (n : Int) : Except Error Int :=
  if n.natAbs < 2 ^ 53 then pure (n.tdiv 8)
  else if roundDouble n.natAbs < 2 ^ 1027 then pure (n.sign * (roundDouble n.natAbs / 8 : Nat))
  else throw .overflowError

/-- Whether `int(n/8)` returns: the double nearest to `n / 8` is below `2 ^ 1024`. -/
def divEightFits (n : Int) : Bool := n.natAbs < 2 ^ 53 || roundDouble n.natAbs < 2 ^ 1027

/-- Peeling one step off a computation that succeeded. -/
theorem bind_eq_ok {α β : Type} {x : Except Error α} {f : α → Except Error β} {b : β} :
    x >>= f = .ok b ↔ ∃ a, x = .ok a ∧ f a = .ok b := by
  cases x <;> simp [bind, Except.bind]

@[simp] theorem pure_eq_ok {α : Type} {a b : α} : (pure a : Except Error α) = .ok b ↔ a = b := by
  simp [pure, Except.pure]

@[simp] theorem throw_ne_ok {α : Type} {e : Error} {b : α} : (throw e : Except Error α) ≠ .ok b := by
  simp [throw, throwThe, MonadExceptOf.throw, Except.error]

theorem map_eq_ok {α β : Type} {x : Except Error α} {f : α → β} {b : β} :
    f <$> x = .ok b ↔ ∃ a, x = .ok a ∧ f a = b := by
  cases x <;> simp [Functor.map, Except.map]

theorem mapM_eq_ok {α β : Type} {f : α → Except Error β} :
    ∀ {l : List α} {l' : List β}, l.mapM f = .ok l' ↔ List.Forall₂ (fun a b => f a = .ok b) l l'
  | [], l' => by
    cases l' <;> simp only [List.mapM_nil, pure_eq_ok] <;> simp [List.forall₂_nil_left_iff]
  | a :: l, l' => by
    rw [List.mapM_cons]
    cases l' <;> simp only [bind_eq_ok, pure_eq_ok, mapM_eq_ok (l := l)] <;>
      simp [List.forall₂_nil_right_iff]

/-- A loop stops at the first element that raises, with its error. -/
theorem mapM_eq_error {α β : Type} {f : α → Except Error β} {a : α} {e : Error} (ha : f a = .error e)
    (post : List α) : ∀ {pre : List α}, (∀ x ∈ pre, ∃ b, f x = .ok b) →
      (pre ++ a :: post).mapM f = .error e
  | [], _ => by rw [List.nil_append, List.mapM_cons, ha]; rfl
  | x :: pre, h => by
    obtain ⟨b, hb⟩ := h x (.head _)
    rw [List.cons_append, List.mapM_cons, hb, mapM_eq_error ha post fun y hy => h y (.tail _ hy)]
    rfl

theorem exists_of_forall₂_mem {α β : Type} {R : α → β → Prop} {l : List α} {l' : List β}
    (h : List.Forall₂ R l l') {b : β} (hb : b ∈ l') : ∃ a ∈ l, R a b := by
  induction h with
  | nil => simp at hb
  | cons hab _ ih =>
    rcases List.mem_cons.1 hb with rfl | hb
    · exact ⟨_, List.mem_cons_self _ _, hab⟩
    · obtain ⟨a, ha, hr⟩ := ih hb
      exact ⟨a, List.mem_cons_of_mem _ ha, hr⟩

theorem forall_of_forall₂ {α β : Type} {P : β → Prop} {l : List α} {l' : List β}
    (h : List.Forall₂ (fun _ b => P b) l l') : ∀ b ∈ l', P b := by
  intro b hb
  obtain ⟨_, _, hp⟩ := exists_of_forall₂_mem h hb
  exact hp

theorem map_eq_map_of_forall₂ {α β γ : Type} {f : α → γ} {g : β → γ} {l : List α} {l' : List β}
    (h : List.Forall₂ (fun a b => f a = g b) l l') : l.map f = l'.map g := by
  induction h with
  | nil => rfl
  | cons hab _ ih => rw [List.map_cons, List.map_cons, hab, ih]

theorem forall₂_imp_mem {α β : Type} {R S : α → β → Prop} {l : List α} {l' : List β}
    (h : List.Forall₂ R l l') (H : ∀ a ∈ l, ∀ b, R a b → S a b) : List.Forall₂ S l l' := by
  induction h with
  | nil => exact .nil
  | cons hab _ ih =>
    exact .cons (H _ (List.mem_cons_self _ _) _ hab)
      (ih fun a ha => H a (List.mem_cons_of_mem _ ha))

end SvdGen
