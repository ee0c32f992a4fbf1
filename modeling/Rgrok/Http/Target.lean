/-
# Request targets

What the `http` crate makes of a request target, as far as the proxy relies on
it.  A `PathAndQuery` is rendered in two ways: `as_str` gives its data, and
`Display` puts a slash before data that begins with neither `/` nor `*`.
-/

import Rgrok.Lib.Text

namespace Rgrok

/-- `PathAndQuery`. -/
structure PathAndQuery where
  data : String
deriving DecidableEq

namespace PathAndQuery

/-- `PathAndQuery::as_str`. -/
def asStr (path : PathAndQuery) : String :=
  if path.data = "" then "/" else path.data

/-- The data begins with a slash or a star. -/
def Rooted (path : PathAndQuery) : Prop :=
  path.data.toList.head? = some '/' ∨ path.data.toList.head? = some '*'

instance (path : PathAndQuery) : Decidable path.Rooted :=
  inferInstanceAs (Decidable (_ ∨ _))

/-- `<PathAndQuery as Display>::fmt`. -/
def display (path : PathAndQuery) : String :=
  if path.data = "" then "/"
  else if path.Rooted then path.data
  else "/" ++ path.data

/-- The two renderings agree on what begins with a slash or a star. -/
theorem display_eq_asStr (path : PathAndQuery) :
    path.display = path.asStr ↔ path.data = "" ∨ path.Rooted := by
  rw [display, asStr]
  split
  · rename_i hempty
    exact ⟨fun _ => Or.inl hempty, fun _ => rfl⟩
  · rename_i hne
    split
    · rename_i hrooted
      exact ⟨fun _ => Or.inr hrooted, fun _ => rfl⟩
    · rename_i hrooted
      constructor
      · intro heq
        have hlen := congrArg (fun s => s.toList.length) heq
        simp only [String.toList_append, List.length_append] at hlen
        have hslash : "/".toList.length = 1 := rfl
        omega
      · rintro (hempty | h)
        · exact absurd hempty hne
        · exact absurd h hrooted

theorem display_ne_empty (path : PathAndQuery) : path.display ≠ "" := by
  rw [display]
  split
  · decide
  · rename_i hne
    split
    · exact hne
    · intro heq
      have hlen := congrArg (fun s => s.toList.length) heq
      simp only [String.toList_append, List.length_append] at hlen
      have hslash : "/".toList.length = 1 := rfl
      have hempty : "".toList.length = 0 := rfl
      omega

/-- What `Display` wrote is rendered as it is. -/
theorem asStr_display (path : PathAndQuery) : asStr ⟨path.display⟩ = path.display :=
  if_neg path.display_ne_empty

end PathAndQuery

/-- `Uri`: `str::parse` and `path_and_query`. -/
structure UriCrate (Uri : Type) where
  parse : String → Option Uri
  pathAndQuery : Uri → Option PathAndQuery

/-- Parsing a path that `Display` wrote gives that path back. -/
structure UriCrate.Lawful {Uri : Type} (uris : UriCrate Uri) : Prop where
  root : ∃ uri, uris.parse "/" = some uri ∧ uris.pathAndQuery uri = some ⟨"/"⟩
  display : ∀ target uri path, uris.parse target = some uri →
    uris.pathAndQuery uri = some path →
      ∃ uri', uris.parse path.display = some uri' ∧
        uris.pathAndQuery uri' = some ⟨path.display⟩

/-- A path has no blanks and no control characters. -/
def UriCrate.Printable {Uri : Type} (uris : UriCrate Uri) : Prop :=
  ∀ uri path, uris.pathAndQuery uri = some path → ∀ c ∈ path.data.toList, 32 < c.toNat

/-- Targets that begin with a slash, and `*`. -/
def originForm : UriCrate PathAndQuery where
  parse s := if s.toList.head? = some '/' ∨ s = "*" then some ⟨s⟩ else none
  pathAndQuery := some

theorem originForm_lawful : originForm.Lawful where
  root := ⟨⟨"/"⟩, by decide +kernel, rfl⟩
  display target uri path hparse hpath := by
    obtain rfl := Option.some.inj hpath
    rw [originForm, Option.ite_none_right_eq_some] at hparse
    obtain ⟨hform, hparse⟩ := hparse
    obtain rfl := Option.some.inj hparse
    have hrooted : (⟨target⟩ : PathAndQuery).Rooted := by
      rcases hform with hslash | rfl
      · exact Or.inl hslash
      · exact Or.inr (by decide +kernel)
    have hdisplay : (⟨target⟩ : PathAndQuery).display = target := by
      rw [PathAndQuery.display, if_pos hrooted]
      split
      · rename_i hempty
        obtain rfl : target = "" := hempty
        exact absurd hrooted (by decide)
      · rfl
    rw [hdisplay]
    exact ⟨⟨target⟩, if_pos hform, rfl⟩

end Rgrok
