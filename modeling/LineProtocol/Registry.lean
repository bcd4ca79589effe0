import LineProtocol.Octets

/-!
# Registries

A registry keeps one entry for each name, in the order of the names. A name is known in any ASCII
case: it is registered in upper case, and registering it again replaces its entry.
-/

set_option autoImplicit false

namespace LineProtocol

namespace Registry

variable {α : Type}

/-- The names increase. -/
def Increasing (entries : List (String × α)) : Prop :=
  entries.Pairwise fun left right ↦ left.1 < right.1

/-- Puts an entry in its place, or in place of the one that has its name. -/
def insert (name : String) (entry : α) : List (String × α) → List (String × α)
  | [] => [(name, entry)]
  | (first, old) :: rest =>
    if name < first then (name, entry) :: (first, old) :: rest
    else if name = first then (name, entry) :: rest
    else (first, old) :: insert name entry rest

theorem mem_insert {name : String} {entry : α} {entries : List (String × α)}
    {found : String × α} (h : found ∈ insert name entry entries) :
    found = (name, entry) ∨ found ∈ entries := by
  induction entries with
  | nil => simpa [insert] using h
  | cons first rest ih =>
    unfold insert at h
    grind

theorem increasing_insert {name : String} {entry : α} {entries : List (String × α)}
    (h : Increasing entries) : Increasing (insert name entry entries) := by
  induction entries with
  | nil => simp [insert, Increasing]
  | cons first rest ih =>
    obtain ⟨firstName, old⟩ := first
    have hfirst := (List.pairwise_cons.1 h).1
    have hrest : Increasing rest := (List.pairwise_cons.1 h).2
    unfold insert
    split
    case isTrue hlt =>
      refine List.pairwise_cons.2 ⟨fun found hfound ↦ ?_, h⟩
      rcases List.mem_cons.1 hfound with rfl | hmem
      · exact hlt
      · exact String.lt_trans hlt (hfirst found hmem)
    case isFalse hlt =>
      split
      case isTrue heq =>
        subst heq
        exact List.pairwise_cons.2 ⟨hfirst, hrest⟩
      case isFalse hne =>
        refine List.pairwise_cons.2 ⟨fun found hfound ↦ ?_, ih hrest⟩
        rcases mem_insert hfound with rfl | hmem
        · show firstName < name
          grind
        · exact hfirst found hmem

end Registry

/-- Entries under upper-case names, in increasing order of the names. -/
structure Registry (α : Type) where
  entries : List (String × α)
  increasing : Registry.Increasing entries

namespace Registry

variable {α : Type}

/-- The registry without entries. -/
def empty : Registry α := ⟨[], List.Pairwise.nil⟩

/-- Registers an entry under a name in any ASCII case. -/
def register (registry : Registry α) (name : String) (entry : α) : Registry α :=
  ⟨insert (upperCase name) entry registry.entries, increasing_insert registry.increasing⟩

/-- The entry of a name, which is in upper case. -/
def find? (registry : Registry α) (name : String) : Option α :=
  registry.entries.lookup name

/-- The registered names in increasing order. -/
def names (registry : Registry α) : List String :=
  registry.entries.map (·.1)

end Registry

end LineProtocol
