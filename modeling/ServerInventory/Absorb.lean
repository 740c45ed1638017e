import ServerInventory.Device.Basic
import ServerInventory.Record.Merge

/-!
The baseline: what is found on a server before any class of components is looked at
closely. It says which components there are, so a found part without a known counterpart
is added, while everything known is merged under the rules that hold for any merge.
-/

namespace ServerInventory

/-- Known parts with found ones merged in, those that met no known part added at the end. -/
def absorbList {α : Type} [Identified α] (known : List α) : List α → Except Error (List α)
  | [] => .ok known
  | fragment :: fragments =>
    match mergeMatching fragment known with
    | (_, .error error) => .error error
    | (merged, .ok (count, _)) =>
      absorbList (if count = 0 then merged ++ [fragment] else merged) fragments

/-- A known server with a found one merged in. -/
def Device.absorb (known found : Device) : Except Error Device := do
  let identity ← merge known.toIdentity found.toIdentity
  let bmc ← merge known.bmc found.bmc
  let bios ← merge known.bios found.bios
  let cpld ← merge known.cpld found.cpld
  let drives ← absorbList known.drives found.drives
  let nics ← absorbList known.nics found.nics
  let storageControllers ← absorbList known.storageControllers found.storageControllers
  return { toIdentity := identity.record
           bmc := bmc.record
           bios := bios.record
           cpld := cpld.record
           drives, nics, storageControllers }

end ServerInventory
