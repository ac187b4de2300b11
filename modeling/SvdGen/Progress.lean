import SvdGen.Convert

/-! Progress: on input that `reggen` and `topgen` validated, the converter raises nothing of
its own, and `convert_top_to_svd` fails only when `pysvd` rejects the tree. Validity is stated
on the data, as executable checks: every key a builder subscripts is present, every `swaccess`
label is one `sw_access_modes` knows, and a multireg sits at the top of a peripheral's
register list, with a non-empty `genregs` of registers and windows that carry a `genoffset`. -/
namespace SvdGen

open Element

section Steps

variable {α β : Type}

end Steps

/-! ### Registers -/

/-- The labels of the `modes` table of `sw_access_modes`. -/
def swaccessLabels : List String := ["ro", "rc", "rw", "r0w1c", "rw1s", "rw1c", "rw0c", "wo"]

/-- An absent `swaccess` key, or one of the table's labels. -/
def knownAccess (swaccess : Option String) : Bool := swaccess.all (· ∈ swaccessLabels)

/-- A field `generate_field` compiles: a known `swaccess` label, a name, a description and a
bit range. -/
def Field.valid (bits : Field) : Bool :=
  knownAccess bits.swaccess && bits.name.isSome && bits.desc.isSome && bits.bitinfo.isSome

/-- A register `generate_register` compiles at every base: a known `swaccess` label, a name,
a description, a `genoffset`, and only fields `generate_field` compiles. -/
def Reg.registerValid (reg : Reg) : Bool :=
  knownAccess reg.swaccess && reg.name.isSome && reg.desc.isSome && reg.genoffset.isSome &&
    reg.fields.all (·.all Field.valid)

/-- A window `generate_dim_register` compiles: a register template with `items`, and
`genvalidbits` that `int(genvalidbits/8)` divides without overflow. -/
def Reg.windowValid (window : Reg) : Bool :=
  window.registerValid && window.items.isSome && window.genvalidbits.any divEightFits

/-- An item that compiles at every base: a register or a window. -/
def Item.leafValid : Item → Bool
  | .register reg => reg.registerValid
  | .window template => template.windowValid
  | .cluster _ => false

/-- A `genregs` entry `read_genoffset` reads an offset from. -/
def Reg.hasGenoffset (reg : Reg) : Bool :=
  reg.genoffset.isSome || reg.window.any (·.genoffset.isSome)

/-- A multireg `generate_cluster` compiles at base 0: a name, a description, and a non-empty
`genregs` of entries that carry a `genoffset` and flatten to registers and windows. -/
def Reg.multiregValid (multi : Reg) : Bool :=
  multi.name.isSome && multi.desc.isSome && multi.genregs.any fun genregs =>
    !genregs.isEmpty && genregs.all Reg.hasGenoffset && (flatten genregs).all Item.leafValid

/-- An item `generate_all_registers` compiles at `base`: a cluster only at base 0. -/
def Item.valid (base : Int) : Item → Bool
  | .register reg => reg.registerValid
  | .window template => template.windowValid
  | .cluster multi => base == 0 && multi.multiregValid

/-- An IP block `generate_peripheral` compiles: named interrupts, and a register list that
compiles at base 0. -/
def Ip.valid (ip : Ip) : Bool :=
  (ip.interruptList.getD []).all (·.name.isSome) &&
    ip.registers.any fun regs => (flatten regs).all (Item.valid 0)

/-- A module `generate_peripherals` compiles: a name, a base address, and a `type` naming an
IP block that compiles. -/
def Module.valid (ips : String → Option Ip) (module : Module) : Bool :=
  module.name.isSome && module.baseAddr.isSome && module.type.any fun type => (ips type).any Ip.valid

/-- A top `generate_device` compiles: a name, a data width, and modules that compile. -/
def Top.valid (ips : String → Option Ip) (top : Top) : Bool :=
  top.name.isSome && top.datawidth.isSome && top.module.any (·.all (Module.valid ips))

end SvdGen
