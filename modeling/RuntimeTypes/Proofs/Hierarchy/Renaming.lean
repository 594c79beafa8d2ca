import Mathlib.Logic.Equiv.Basic
import RuntimeTypes.Proofs.Hierarchy.Ancestors

/-!
Descriptors under other numbers.  A renaming changes the identities in a chain
one to one, and nothing that a type tells about itself.
-/

namespace RuntimeTypes

namespace Descriptor

variable {f g : Equiv.Perm Nat} {d : Descriptor}

/-- The descriptor with other numbers for itself and its bases. -/
def rename (f : Equiv.Perm Nat) : Descriptor → Descriptor
  | root serial info => root (f serial) info
  | derived serial info base => derived (f serial) info (base.rename f)

@[simp] theorem serial_rename (f : Equiv.Perm Nat) (d : Descriptor) :
    (d.rename f).serial = f d.serial := by
  cases d <;> rfl

@[simp] theorem info_rename (f : Equiv.Perm Nat) (d : Descriptor) :
    (d.rename f).info = d.info := by
  cases d <;> rfl

@[simp] theorem name_rename (f : Equiv.Perm Nat) (d : Descriptor) :
    (d.rename f).name = d.name :=
  congrArg TypeInfo.name (info_rename f d)

@[simp] theorem fields_rename (f : Equiv.Perm Nat) (d : Descriptor) :
    (d.rename f).fields = d.fields :=
  congrArg TypeInfo.fields (info_rename f d)

@[simp] theorem base?_rename (f : Equiv.Perm Nat) (d : Descriptor) :
    (d.rename f).base? = d.base?.map (rename f) := by
  cases d <;> rfl

theorem rename_make (f : Equiv.Perm Nat) (n : Nat) (info : TypeInfo)
    (base? : Option Descriptor) :
    (make n info base?).rename f = make (f n) info (base?.map (rename f)) := by
  cases base? <;> rfl

@[simp] theorem same_rename (f : Equiv.Perm Nat) (a b : Descriptor) :
    (a.rename f).same (b.rename f) = a.same b := by
  simp [same]

@[simp] theorem sameBase_rename (f : Equiv.Perm Nat) (a? b? : Option Descriptor) :
    sameBase (a?.map (rename f)) (b?.map (rename f)) = sameBase a? b? := by
  cases a? <;> cases b? <;> simp [sameBase]

@[simp] theorem baseText_rename (f : Equiv.Perm Nat) (base? : Option Descriptor) :
    baseText (base?.map (rename f)) = baseText base? := by
  cases base? <;> simp [baseText]

/-- Only the numbers along the chain count. -/
theorem rename_congr (agree : ∀ a ∈ d.chain, g a.serial = f a.serial) :
    d.rename g = d.rename f := by
  induction d with
  | root serial info => simp [rename, show g serial = f serial from agree _ (mem_chain_self _)]
  | derived serial info base ih =>
      have first : g serial = f serial := agree _ (mem_chain_self _)
      have later : base.rename g = base.rename f :=
        ih fun a above => agree a (List.mem_cons_of_mem _ above)
      rw [rename, rename, first, later]

end Descriptor

end RuntimeTypes
