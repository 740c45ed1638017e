import ServerInventory.Text.Lines
import ServerInventory.Text.Lowercase

/-!
Vendors and the many ways in which they are spelled. Whatever depends on a vendor works
with its canonical key: the spelling without blanks around it, in small letters, with all
known aliases of a vendor brought to one.
-/

namespace ServerInventory.Vendor

/-! ## Keys -/

def dell : String := "dell"
def supermicro : String := "supermicro"
def hpe : String := "hpe"
def lenovo : String := "lenovo"
def quanta : String := "quanta"
def asrockrack : String := "asrockrack"
def gigabyte : String := "gigabyte"
def intel : String := "intel"
def mellanox : String := "mellanox"
def broadcom : String := "broadcom"
def marvell : String := "marvell"
def micron : String := "micron"
def samsung : String := "samsung"
def toshiba : String := "toshiba"
def seagate : String := "seagate"
def westernDigital : String := "westerndigital"

/-! ## Spellings -/

/-- The known spellings of each vendor, in small letters. -/
def spellings : List (String × List String) := [
  (dell, ["dell", "dell inc.", "dell inc", "dell emc"]),
  (supermicro, ["supermicro", "super micro", "super micro computer",
    "super micro computer, inc.", "smc"]),
  (hpe, ["hpe", "hp", "hewlett packard enterprise", "hewlett-packard"]),
  (lenovo, ["lenovo"]),
  (quanta, ["quanta", "quanta cloud technology inc.", "qct"]),
  (asrockrack, ["asrockrack", "asrock rack", "asrock"]),
  (gigabyte, ["gigabyte", "giga computing"]),
  (intel, ["intel", "intel corporation", "intel corp."]),
  (mellanox, ["mellanox", "mellanox technologies", "nvidia"]),
  (broadcom, ["broadcom", "broadcom / lsi", "lsi", "lsi logic", "lsi logic / symbios logic",
    "avago", "avago technologies"]),
  (marvell, ["marvell", "marvell technology group ltd."]),
  (micron, ["micron", "micron technology", "micron technology inc"]),
  (samsung, ["samsung", "samsung electronics co ltd"]),
  (toshiba, ["toshiba", "kioxia"]),
  (seagate, ["seagate"]),
  (westernDigital, ["western digital", "wdc"])]

/-- The key of the vendor with a spelling in small letters. -/
def ofSpelling? (spelling : String) : Option String :=
  (spellings.find? fun vendor => vendor.2.contains spelling).map Prod.fst

/-- The key under which a vendor is known. A vendor without known spellings is its own
key, in small letters and without blanks around it. -/
def canonical (name : String) : String :=
  let spelling := Text.lowercase (Text.trim name)
  (ofSpelling? spelling).getD spelling

/-! ## Drive models -/

/-- How the model names of a vendor's drives begin; the first match counts. -/
def modelBeginnings : List (String × String) := [
  ("micron", micron), ("mtfd", micron), ("samsung", samsung), ("mz", samsung),
  ("intel", intel), ("ssdsc", intel), ("toshiba", toshiba), ("kxg", toshiba),
  ("st", seagate), ("wdc", westernDigital)]

/-- The vendor that the model name of a drive gives away. -/
def ofDriveModel? (model : String) : Option String :=
  let normalized := Text.replace '_' ' ' (Text.lowercase (Text.trim model))
  (modelBeginnings.find? fun entry => Text.beginsWith normalized entry.1).map Prod.snd

end ServerInventory.Vendor
