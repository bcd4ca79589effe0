import LineProtocol.Assignment
import Mathlib.Data.List.TakeWhile
import Mathlib.Tactic

/-!
# How an option is spelled

A value is assigned to a key by the key alone, if the value is empty, by spaces between the two, or
by an equals sign with any number of spaces on either side of it. `Spelling` lists these forms, and
`split_eq_some_iff` says that they are the ones that are split, each into its own key and value.
What is left are characters that begin with no key, and keys with another mark behind them
(`split_eq_none_iff`). Whatever value is assigned by `render` comes back without its spaces in
front (`split_render`).
-/

set_option autoImplicit false

namespace LineProtocol.Assignment

/-- Characters that make up a key. -/
structure IsKey (key : List Char) : Prop where
  some_character : key ≠ []
  characters : ∀ character ∈ key, isKeyCharacter character = true

/-- The characters that assign a value to a key. -/
inductive Spelling (key : List Char) : List Char → List Char → Prop
  | bare : Spelling key [] key
  | spaced (spaces : Nat) (value : List Char) (hvalue : value.head? ≠ some '=') :
    Spelling key value (key ++ (List.replicate (spaces + 1) ' ' ++ value))
  | equated (before after : Nat) (value : List Char) :
    Spelling key value
      (key ++ (List.replicate before ' ' ++ '=' :: (List.replicate after ' ' ++ value)))

variable {key value rest text : List Char}

/-! ### Spaces in front -/

theorem head?_skipSpaces (text : List Char) : (skipSpaces text).head? ≠ some ' ' := by
  intro hspace
  have hstop := List.head?_dropWhile_not (· == ' ') text
  rw [skipSpaces] at hspace
  rw [hspace] at hstop
  simp at hstop

theorem skipSpaces_of_head? (h : text.head? ≠ some ' ') : skipSpaces text = text := by
  cases text with
  | nil => rfl
  | cons first later =>
    have hfirst : ¬(first == ' ') = true := by simpa using h
    exact List.dropWhile_cons_of_neg hfirst

theorem skipSpaces_replicate (count : Nat) (text : List Char) :
    skipSpaces (List.replicate count ' ' ++ text) = skipSpaces text := by
  have hspaces : ∀ character ∈ List.replicate count ' ', (character == ' ') = true := by
    intro character hmem
    rw [List.eq_of_mem_replicate hmem]
    rfl
  rw [skipSpaces, List.dropWhile_append_of_pos hspaces, skipSpaces]

theorem exists_replicate_skipSpaces (text : List Char) :
    ∃ count, text = List.replicate count ' ' ++ skipSpaces text := by
  have hspaces : ∀ character ∈ text.takeWhile (· == ' '), character = ' ' := by
    intro character hmem
    simpa using List.mem_takeWhile_imp hmem
  refine ⟨(text.takeWhile (· == ' ')).length, ?_⟩
  rw [← List.eq_replicate_of_mem hspaces, skipSpaces, List.takeWhile_append_dropWhile]

/-! ### Splitting -/

/-- Nothing behind a key could belong to it, so that it is the longest. -/
def Delimits (rest : List Char) : Prop :=
  ∀ mark ∈ rest.head?, isKeyCharacter mark = false

theorem Delimits.takeWhile_eq_nil (h : Delimits rest) : rest.takeWhile isKeyCharacter = [] := by
  cases rest with
  | nil => rfl
  | cons mark later => exact List.takeWhile_cons_of_neg (by simp [h mark rfl])

theorem Delimits.dropWhile_eq_self (h : Delimits rest) : rest.dropWhile isKeyCharacter = rest := by
  cases rest with
  | nil => rfl
  | cons mark later => exact List.dropWhile_cons_of_neg (by simp [h mark rfl])

theorem dropWhile_append (hkey : IsKey key) (hend : Delimits rest) :
    (key ++ rest).dropWhile isKeyCharacter = rest := by
  rw [List.dropWhile_append_of_pos hkey.characters, hend.dropWhile_eq_self]

theorem splitCharacters_append (hkey : IsKey key) (hend : Delimits rest) :
    splitCharacters (key ++ rest) =
      if rest = [] then some (key, [])
      else if rest.head? = some ' ' ∨ rest.head? = some '=' then
        some (key, skipSpaces (skipEquals (skipSpaces rest)))
      else none := by
  have hsome : key.isEmpty = false := List.isEmpty_eq_false_iff.2 hkey.some_character
  rw [splitCharacters, List.takeWhile_append_of_pos hkey.characters, hend.takeWhile_eq_nil,
    List.append_nil, dropWhile_append hkey hend]
  simp only [hsome, Bool.false_eq_true, if_false]
  cases rest with
  | nil => rfl
  | cons mark later =>
    simp only [List.head?_cons, Option.some_inj, reduceCtorEq, if_false]

/-- Characters begin with a longest key, or with nothing that could belong to one. -/
theorem exists_longest_key (text : List Char) :
    Delimits text ∨ ∃ key rest, IsKey key ∧ Delimits rest ∧ text = key ++ rest := by
  by_cases hempty : text.takeWhile isKeyCharacter = []
  · refine .inl fun first hfirst ↦ ?_
    obtain ⟨later, rfl⟩ := List.head?_eq_some_iff.1 hfirst
    by_contra hkey
    rw [List.takeWhile_cons_of_pos (Bool.not_eq_false _ ▸ hkey)] at hempty
    exact List.cons_ne_nil _ _ hempty
  · refine .inr ⟨_, _, ⟨hempty, fun _ hmem ↦ List.mem_takeWhile_imp hmem⟩, fun mark hmark ↦ ?_,
      List.takeWhile_append_dropWhile.symm⟩
    have hstop := List.head?_dropWhile_not isKeyCharacter text
    rw [Option.mem_def.1 hmark] at hstop
    simpa using hstop

theorem splitCharacters_of_delimits (h : Delimits text) : splitCharacters text = none := by
  rw [splitCharacters, h.takeWhile_eq_nil]
  rfl

/-- A space or an equals sign behind a key is followed by the value. -/
theorem splitCharacters_of_mark (hkey : IsKey key)
    (hmark : rest.head? = some ' ' ∨ rest.head? = some '=') :
    splitCharacters (key ++ rest) =
      some (key, skipSpaces (skipEquals (skipSpaces rest))) := by
  have hend : Delimits rest := by
    intro mark hmem
    rcases hmark with h | h <;> (rw [h] at hmem; cases hmem; decide)
  have hsome : rest ≠ [] := by
    rintro rfl
    simp at hmark
  rw [splitCharacters_append hkey hend, if_neg hsome, if_pos hmark]

/-- Every spelling is split into its key and its value. -/
theorem splitCharacters_of_spelling (hkey : IsKey key) (hvalue : value.head? ≠ some ' ')
    (h : Spelling key value text) : splitCharacters text = some (key, value) := by
  have hclean := skipSpaces_of_head? hvalue
  cases h with
  | bare =>
    have hend : Delimits [] := fun _ hmem ↦ nomatch hmem
    have hsplit := splitCharacters_append hkey hend
    rwa [List.append_nil] at hsplit
  | spaced spaces value hequals =>
    have hkept : skipEquals value = value := by
      unfold skipEquals
      split
      · exact absurd rfl hequals
      · rfl
    rw [splitCharacters_of_mark hkey (.inl rfl), skipSpaces_replicate, hclean, hkept, hclean]
  | equated before after value =>
    have hmark : (List.replicate before ' ' ++ '=' :: (List.replicate after ' ' ++ value)).head? =
        some ' ' ∨
        (List.replicate before ' ' ++ '=' :: (List.replicate after ' ' ++ value)).head? =
          some '=' := by
      cases before with
      | zero => exact .inr rfl
      | succ before => exact .inl rfl
    have hequals : skipSpaces ('=' :: (List.replicate after ' ' ++ value)) =
        '=' :: (List.replicate after ' ' ++ value) := skipSpaces_of_head? (by simp)
    rw [splitCharacters_of_mark hkey hmark, skipSpaces_replicate, hequals, skipEquals,
      skipSpaces_replicate, hclean]

/-- What begins with a space or an equals sign separates a key from a value. -/
theorem spelling_of_mark (key : List Char)
    (hmark : rest.head? = some ' ' ∨ rest.head? = some '=') :
    Spelling key (skipSpaces (skipEquals (skipSpaces rest))) (key ++ rest) := by
  obtain ⟨before, hbefore⟩ := exists_replicate_skipSpaces rest
  by_cases hequals : (skipSpaces rest).head? = some '='
  · obtain ⟨later, hlater⟩ : ∃ later, skipSpaces rest = '=' :: later :=
      List.head?_eq_some_iff.1 hequals
    obtain ⟨after, hafter⟩ := exists_replicate_skipSpaces later
    rw [hlater] at hbefore ⊢
    rw [hbefore, skipEquals]
    conv in key ++ _ => rw [hafter]
    exact .equated before after (skipSpaces later)
  · have hkept : skipEquals (skipSpaces rest) = skipSpaces rest := by
      unfold skipEquals
      split
      · next hlater => exact absurd (by rw [hlater]; rfl) hequals
      · rfl
    have hclean := skipSpaces_of_head? (head?_skipSpaces rest)
    rw [hkept, hclean]
    cases before with
    | zero =>
      rw [List.replicate_zero, List.nil_append] at hbefore
      rw [← hbefore] at hequals
      rcases hmark with hspace | hequals'
      · exact absurd (hbefore ▸ hspace) (head?_skipSpaces rest)
      · exact absurd hequals' hequals
    | succ before =>
      conv in key ++ _ => rw [hbefore]
      exact .spaced before _ hequals

theorem splitCharacters_eq_some_iff :
    splitCharacters text = some (key, value) ↔
      IsKey key ∧ value.head? ≠ some ' ' ∧ Spelling key value text := by
  refine ⟨fun h ↦ ?_, fun ⟨hkey, hvalue, hspelling⟩ ↦
    splitCharacters_of_spelling hkey hvalue hspelling⟩
  rcases exists_longest_key text with hnone | ⟨found, rest, hfound, hend, rfl⟩
  · exact nomatch h.symm.trans (splitCharacters_of_delimits hnone)
  rw [splitCharacters_append hfound hend] at h
  split_ifs at h with hempty hmark
  · cases h
    rw [hempty, List.append_nil]
    exact ⟨hfound, by simp, .bare⟩
  · cases h
    exact ⟨hfound, head?_skipSpaces _, spelling_of_mark _ hmark⟩

theorem splitCharacters_eq_none_iff :
    splitCharacters text = none ↔
      (∀ first ∈ text.head?, isKeyCharacter first = false) ∨
        ∃ mark ∈ (text.dropWhile isKeyCharacter).head?, mark ≠ ' ' ∧ mark ≠ '=' := by
  rcases exists_longest_key text with hnone | ⟨key, rest, hkey, hend, rfl⟩
  · exact ⟨fun _ ↦ .inl hnone, fun _ ↦ splitCharacters_of_delimits hnone⟩
  have hfirst : ¬∀ first ∈ (key ++ rest).head?, isKeyCharacter first = false := by
    intro hall
    obtain ⟨first, later, rfl⟩ := List.exists_cons_of_ne_nil hkey.some_character
    have hcharacter := hkey.characters first List.mem_cons_self
    rw [hall first rfl] at hcharacter
    exact Bool.false_ne_true hcharacter
  rw [splitCharacters_append hkey hend, dropWhile_append hkey hend, or_iff_right hfirst]
  cases rest with
  | nil => simp
  | cons mark later => simp

/-! ### Texts -/

theorem split_eq_some_iff {text key value : String} :
    split text = some (key, value) ↔
      IsKey key.toList ∧ value.toList.head? ≠ some ' ' ∧
        Spelling key.toList value.toList text.toList := by
  rw [← splitCharacters_eq_some_iff, split, Option.map_eq_some_iff]
  constructor
  · rintro ⟨⟨found, rest⟩, hsplit, h⟩
    cases h
    rwa [String.toList_ofList, String.toList_ofList]
  · intro hsplit
    refine ⟨_, hsplit, ?_⟩
    simp only [String.ofList_toList]

theorem split_eq_none_iff {text : String} :
    split text = none ↔
      (∀ first ∈ text.toList.head?, isKeyCharacter first = false) ∨
        ∃ mark ∈ (text.toList.dropWhile isKeyCharacter).head?, mark ≠ ' ' ∧ mark ≠ '=' := by
  rw [← splitCharacters_eq_none_iff, split, Option.map_eq_none_iff]

/-- An assignment is a spelling of the value without its spaces in front. -/
theorem spelling_render (key value : String) :
    Spelling key.toList (skipSpaces value.toList) (render key value).toList := by
  rw [render]
  split_ifs with hempty
  · rw [hempty]
    exact .bare
  · obtain ⟨count, hcount⟩ := exists_replicate_skipSpaces value.toList
    have htext : (key ++ " = " ++ value).toList =
        key.toList ++ (List.replicate 1 ' ' ++
          '=' :: (List.replicate (count + 1) ' ' ++ skipSpaces value.toList)) := by
      rw [List.replicate_succ (n := count), List.cons_append, ← hcount, String.toList_append,
        String.toList_append, List.append_assoc]
      rfl
    rw [htext]
    exact .equated 1 (count + 1) _

theorem split_render {key : String} (hkey : IsKey key.toList) (value : String) :
    split (render key value) = some (key, String.ofList (skipSpaces value.toList)) := by
  rw [split_eq_some_iff, String.toList_ofList]
  exact ⟨hkey, head?_skipSpaces _, spelling_render key value⟩

end LineProtocol.Assignment
