import Tabletop.Compendium.Spells
import Tabletop.Compendium.Weapons

/-!
The compendium that comes with the rules.
-/

namespace Tabletop.Compendium

/-- The weapons and spells that come with the rules. -/
def standard : Compendium where
  weapons := Entries.ofNamed Weapon.name standardWeapons
  spells := Entries.ofNamed Spell.name standardSpells

end Tabletop.Compendium
