import SvdGen.Registers

/-! Reserved and skipto entries are informational. Inserting one into a register list, or
into any same-address group the compiler reaches (one inside a multireg's `genregs`
included), changes neither the nodes `generate_all_registers` returns nor whether it raises.
Inserting one straight into `genregs` does change it: `generate_cluster` reads a `genoffset`
from every entry there, reserved ones too. -/
namespace SvdGen

open Element

/-- An entry the dispatch of `generate_all_registers` skips. -/
def Reg.IsGap (r : Reg) : Prop := r.reserved = true ∨ r.skipto = true

/-- `Inserted r top l l'`: `l'` is `l` with `r` inserted once, directly into `l` (only when
`top`), into a same-address group of one of its entries, or into the `genregs` of one of its
multiregs, where it may not go in directly. -/
inductive Inserted (r : Reg) : Bool → List Reg → List Reg → Prop
  | here (l₁ l₂ : List Reg) : Inserted r true (l₁ ++ l₂) (l₁ ++ r :: l₂)
  | sameaddr {top : Bool} (l₁ l₂ : List Reg) (e : Reg) {g g' : List Reg} :
      e.sameaddr = some g → Inserted r true g g' →
      Inserted r top (l₁ ++ e :: l₂) (l₁ ++ { e with sameaddr := some g' } :: l₂)
  | multireg {top : Bool} (l₁ l₂ : List Reg) (e m : Reg) {gs gs' : List Reg} :
      e.multireg = some m → m.genregs = some gs → Inserted r false gs gs' →
      Inserted r top (l₁ ++ e :: l₂)
        (l₁ ++ { e with multireg := some { m with genregs := some gs' } } :: l₂)

/-- Two computations agree when they return the same value or both raise. -/
def Agree {α : Type} (x y : Except Error α) : Prop := x.toOption = y.toOption

section Agree

variable {α β : Type}

theorem Agree.bind {x y : Except Error α} {f g : α → Except Error β} (hxy : Agree x y)
    (hfg : ∀ a, Agree (f a) (g a)) : Agree (x >>= f) (y >>= g) := by
  cases x <;> cases y
  case error.error => rfl
  case ok.ok a b =>
    obtain rfl : a = b := by simpa [Agree, Except.toOption] using hxy
    exact hfg a
  all_goals simp [Agree, Except.toOption] at hxy

theorem Agree.refl (x : Except Error α) : Agree x x := rfl

theorem Agree.throw (e e' : Error) : Agree (throw e : Except Error α) (throw e') := rfl

theorem Agree.mapM_mid {f : α → Except Error β} (l₁ l₂ : List α) {a b : α} (hab : Agree (f a) (f b)) :
    Agree ((l₁ ++ a :: l₂).mapM f) ((l₁ ++ b :: l₂).mapM f) := by
  simp only [List.mapM_append, List.mapM_cons]
  exact .bind (.refl _) fun _ => .bind (.bind hab fun _ => .refl _) fun _ => .refl _

end Agree

theorem generateAllRegisters_mid (l₁ l₂ : List Reg) {e e' : Reg} {base : Int}
    (h : Agree (generateEntry e base) (generateEntry e' base)) :
    Agree (generateAllRegisters (l₁ ++ e :: l₂) base) (generateAllRegisters (l₁ ++ e' :: l₂) base) := by
  induction l₁ with
  | nil => exact .bind h fun _ => .refl _
  | cons r l₁ ih => exact .bind (.refl _) fun _ => .bind ih fun _ => .refl _

/-- `read_genoffset` looks at `genoffset` and `window` only. -/
theorem readGenoffset_agree {e e' : Reg} (ho : e.genoffset = e'.genoffset) (hw : e.window = e'.window) :
    Agree (readGenoffset e) (readGenoffset e') := by
  unfold readGenoffset
  rw [ho, hw]
  split
  · exact .refl _
  · split
    · exact .refl _
    · exact .throw _ _

theorem generateEntry_sameaddr_agree {e : Reg} {g g' : List Reg} (hg : e.sameaddr = some g)
    {base : Int} (h : Agree (generateAllRegisters g base) (generateAllRegisters g' base)) :
    Agree (generateEntry e base) (generateEntry { e with sameaddr := some g' } base) := by
  obtain ⟨_|_, _|_, _|_, _|_, _|_⟩ := e <;> cases hg <;> first | exact .refl _ | exact h

theorem generateCluster_agree {m : Reg} {gs gs' : List Reg} (hgs : m.genregs = some gs)
    (hread : Agree (gs.mapM readGenoffset) (gs'.mapM readGenoffset))
    (hgen : ∀ c, Agree (generateAllRegisters gs c) (generateAllRegisters gs' c)) (base : Int) :
    Agree (generateCluster m base) (generateCluster { m with genregs := some gs' } base) := by
  by_cases hb : base = 0
  · rw [generateCluster_eq, generateCluster_eq, if_neg (not_not.2 hb), if_neg (not_not.2 hb), hgs]
    exact .bind hread fun _ => .bind (.refl _) fun c => .bind (.refl _) fun _ =>
      .bind (.refl _) fun _ => .bind (hgen c) fun _ => .refl _
  · rw [generateCluster_of_ne_zero _ hb, generateCluster_of_ne_zero _ hb]
    exact .refl _

theorem generateEntry_multireg_agree {e m : Reg} {gs' : List Reg} (hm : e.multireg = some m)
    {base : Int} (h : Agree (generateCluster m base) (generateCluster { m with genregs := some gs' } base)) :
    Agree (generateEntry e base)
      (generateEntry { e with multireg := some { m with genregs := some gs' } } base) := by
  obtain ⟨_|_, _|_, _|_, _|_, _|_⟩ := e <;> cases hm <;>
    first | exact .refl _ | exact .bind h fun _ => .refl _

/-- Both halves of the induction: the compiled list agrees, and so do the `genoffset`s read
from its entries whenever `r` went below them. -/
theorem inserted_agree {r : Reg} (hr : r.IsGap) {top : Bool} {l l' : List Reg}
    (h : Inserted r top l l') :
    (∀ base, Agree (generateAllRegisters l base) (generateAllRegisters l' base)) ∧
      (top = false → Agree (l.mapM readGenoffset) (l'.mapM readGenoffset)) := by
  induction h with
  | here l₁ l₂ =>
    refine ⟨fun base => ?_, fun h => by cases h⟩
    rw [generateAllRegisters_eq, generateAllRegisters_eq]
    simp only [flatten_append, flatten_cons, flattenEntry_eq, Reg.entry_of_reserved hr,
      List.nil_append]
    exact .refl _
  | sameaddr l₁ l₂ e hg _ ih =>
    exact ⟨fun base => generateAllRegisters_mid l₁ l₂ (generateEntry_sameaddr_agree hg (ih.1 base)),
      fun _ => Agree.mapM_mid l₁ l₂ (readGenoffset_agree rfl rfl)⟩
  | multireg l₁ l₂ e m hm hgs _ ih =>
    exact ⟨fun base => generateAllRegisters_mid l₁ l₂
        (generateEntry_multireg_agree hm (generateCluster_agree hgs (ih.2 rfl) ih.1 base)),
      fun _ => Agree.mapM_mid l₁ l₂ (readGenoffset_agree rfl rfl)⟩

/-- A reserved or skipto entry inserted at the top of a register list, or inside any
same-address group the compiler reaches, leaves `generate_all_registers` returning the same
nodes, and raising exactly when it raised before. -/
theorem generateAllRegisters_gapInserted {r : Reg} (hr : r.IsGap) {l l' : List Reg}
    (h : Inserted r true l l') (base : Int) :
    (generateAllRegisters l' base).toOption = (generateAllRegisters l base).toOption :=
  ((inserted_agree hr h).1 base).symm

theorem generateAllRegisters_gapInserted_front :
    let gap : Reg := { Reg.empty with reserved := true }
    let reg : Reg := { Reg.empty with name := some "R", desc := some "r", genoffset := some 4 }
    gap.IsGap ∧ Inserted gap true [reg] [gap, reg] ∧
      (generateAllRegisters [gap, reg] 0).toOption = (generateAllRegisters [reg] 0).toOption :=
  ⟨.inl rfl, .here [] _, generateAllRegisters_gapInserted (.inl rfl) (.here [] _) 0⟩

/-- A reserved entry put straight into a multireg's `genregs`: the multireg compiled before,
and now `read_genoffset` raises on the reserved entry. -/
theorem generateAllRegisters_gapInGenregs :
    let gap : Reg := { Reg.empty with reserved := true }
    let reg : Reg := { Reg.empty with name := some "R", desc := some "r", genoffset := some 4 }
    let multi (genregs : List Reg) : Reg := { Reg.empty with
      multireg := some { Reg.empty with name := some "M", desc := some "m", genregs := some genregs } }
    (∃ nodes, generateAllRegisters [multi [reg]] 0 = .ok nodes) ∧
      generateAllRegisters [multi [gap, reg]] 0 = .error (.missingGenoffset gap) :=
  ⟨⟨_, rfl⟩, rfl⟩

end SvdGen
