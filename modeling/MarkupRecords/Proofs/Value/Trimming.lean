import MarkupRecords.Proofs.Text.Ends
import MarkupRecords.Proofs.Value.Edit
import MarkupRecords.Proofs.Value.Equivalence

/-!
Trimming all texts of a container. `Value.Trims` compares two values leaf by leaf: a text stands
against what is left of it without the blanks at its ends, a blank text against nil, every other
leaf against itself, and lists and maps have as many items and the same keys in the same order. Each
value has one such counterpart, which is what `Value.strip` gives (`Value.trims_iff`). No text that
stands in it, at whatever depth (`Value.HasText`), is empty or has a blank at an end, and where that
is so trimming changes nothing; so a second time changes nothing (`Container.strip_normalizes`).
-/

set_option autoImplicit false
set_option relaxedAutoImplicit false

namespace MarkupRecords

open Text (IsTrim)

namespace Value

/-- The second value is the first one with all texts trimmed, and nil for the blank ones. -/
inductive Trims : Value → Value → Prop
  | text {s t : String} (htrim : IsTrim s.toList t.toList) (hne : t ≠ "") :
    Trims (.text s) (.text t)
  | blank {s : String} (hblank : ∀ c ∈ s.toList, Text.isBlank c = true) : Trims (.text s) .nil
  | list {items items' : List Value} (hitems : List.Forall₂ Trims items items') :
    Trims (.list items) (.list items')
  | map {c d : Container} (hentries : List.Forall₂ (Prod.RProd Eq Trims) c.entries d.entries)
    (hpath : d.sourcePath = c.sourcePath) (hnode : d.sourceNode = c.sourceNode) :
    Trims (.map c) (.map d)
  | other {v : Value} (htext : ∀ s, v ≠ .text s) (hlist : ∀ items, v ≠ .list items)
    (hmap : ∀ c, v ≠ .map c) : Trims v v

/-- The text stands in the value: it is the value, or it stands in an item of the list or under a
key of the map. -/
inductive HasText (s : String) : Value → Prop
  | self : HasText s (.text s)
  | item {items : List Value} {v : Value} : v ∈ items → HasText s v → HasText s (.list items)
  | entry {c : Container} {e : String × Value} : e ∈ c.entries → HasText s e.2 → HasText s (.map c)

/-! ### What trimming gives -/

theorem strip_text_of_blank {s : String} (h : Text.trimmed s = "") : (text s).strip = nil := by
  rw [strip]
  exact if_pos h

theorem strip_text_of_ne {s : String} (h : Text.trimmed s ≠ "") :
    (text s).strip = text (Text.trimmed s) := by
  rw [strip]
  exact if_neg h

theorem strip_list (items : List Value) : (list items).strip = list (items.map strip) := by
  rw [strip, stripAll_eq_map]

theorem strip_map (c : Container) : (map c).strip = map c.strip := by
  rw [strip]

theorem trims_strip (v : Value) : v.Trims v.strip := by
  induction v using Value.inductionOn with
  | text s =>
    by_cases hblank : Text.trimmed s = ""
    · rw [strip_text_of_blank hblank]
      exact .blank (Text.trimmed_eq_empty_iff.mp hblank)
    · rw [strip_text_of_ne hblank]
      refine .text ?_ hblank
      rw [Text.trimmed_toList]
      exact Text.isTrim_trim s.toList
  | list items ih =>
    rw [strip_list]
    exact .list (List.forall₂_map_right_iff.mpr (List.forall₂_same.mpr ih))
  | map c ih =>
    rw [strip_map, Container.strip_eq]
    refine .map (List.forall₂_map_right_iff.mpr (List.forall₂_same.mpr fun e he ↦ ?_)) rfl rfl
    exact ⟨rfl, ih e he⟩
  | _ => exact .other nofun nofun nofun

/-- Trimming is all that `Trims` admits. -/
theorem Trims.eq_strip {v w : Value} (h : v.Trims w) : w = v.strip := by
  induction v using Value.inductionOn generalizing w with
  | text s =>
    cases h with
    | @text _ t htrim hne =>
      have ht : t = Text.trimmed s := by
        rw [← String.toList_inj, Text.trimmed_toList]
        exact htrim.eq_trim
      rw [ht] at hne ⊢
      rw [strip_text_of_ne hne]
    | blank hblank => rw [strip_text_of_blank (Text.trimmed_eq_empty_iff.mpr hblank)]
    | other htext => exact absurd rfl (htext s)
  | list items ih =>
    cases h with
    | @list _ items' hitems =>
      have hsame : List.Forall₂ Eq (items.map strip) items' :=
        List.forall₂_map_left_iff.mpr <|
          forall₂_imp_of_mem hitems fun v hv _ _ hvw ↦ (ih v hv hvw).symm
      rw [List.forall₂_eq_eq_eq] at hsame
      rw [strip_list, hsame]
    | other _ hlist => exact absurd rfl (hlist items)
  | map c ih =>
    cases h with
    | @map _ d hentries hpath hnode =>
      have hsame : List.Forall₂ Eq (c.entries.map fun e ↦ (e.1, e.2.strip)) d.entries := by
        refine List.forall₂_map_left_iff.mpr <| forall₂_imp_of_mem hentries ?_
        rintro ⟨key, v⟩ he ⟨_, w⟩ - ⟨rfl, hvw⟩
        rw [ih (key, v) he hvw]
      rw [List.forall₂_eq_eq_eq] at hsame
      obtain ⟨entries, path, node⟩ := d
      rw [strip_map, Container.strip_eq, hsame, ← hpath, ← hnode]
    | other _ _ hmap => exact absurd rfl (hmap c)
  | _ =>
    cases h
    rfl

/-- Each value has one counterpart with all texts trimmed. -/
theorem trims_iff {v w : Value} : v.Trims w ↔ w = v.strip := by
  constructor
  · exact Trims.eq_strip
  · rintro rfl
    exact v.trims_strip

/-! ### Trimming what is trimmed -/

/-- A text that stands in a trimmed value is trimmed, and it is not empty. -/
theorem HasText.of_strip {v : Value} {s : String} (h : v.strip.HasText s) :
    s ≠ "" ∧ IsTrim s.toList s.toList := by
  induction v using Value.inductionOn with
  | text t =>
    by_cases hblank : Text.trimmed t = ""
    · rw [strip_text_of_blank hblank] at h
      cases h
    · rw [strip_text_of_ne hblank] at h
      cases h with
      | self =>
        have htrim := Text.isTrim_trim t.toList
        rw [Text.trimmed_toList]
        exact ⟨hblank, ⟨⟨[], [], by simp, nofun, nofun⟩, htrim.starts, htrim.ends⟩⟩
  | list items ih =>
    rw [strip_list] at h
    cases h with
    | item hmem h =>
      obtain ⟨v, hv, rfl⟩ := List.mem_map.mp hmem
      exact ih v hv h
  | map c ih =>
    rw [strip_map, Container.strip_eq] at h
    cases h with
    | entry hmem h =>
      obtain ⟨e, he, rfl⟩ := List.mem_map.mp hmem
      exact ih e he h
  | _ => cases h

/-- A value in which every text is trimmed and not empty is its own counterpart. -/
theorem trims_self {v : Value} (h : ∀ s, v.HasText s → s ≠ "" ∧ IsTrim s.toList s.toList) :
    v.Trims v := by
  induction v using Value.inductionOn with
  | text s =>
    obtain ⟨hne, htrim⟩ := h s .self
    exact .text htrim hne
  | list items ih =>
    exact .list (List.forall₂_same.mpr fun v hv ↦ ih v hv fun s hs ↦ h s (.item hv hs))
  | map c ih =>
    refine .map (List.forall₂_same.mpr fun e he ↦ ?_) rfl rfl
    exact ⟨rfl, ih e he fun s hs ↦ h s (.entry he hs)⟩
  | _ => exact .other nofun nofun nofun

theorem strip_strip (v : Value) : v.strip.strip = v.strip :=
  (trims_self fun _ ↦ HasText.of_strip).eq_strip.symm

end Value

/-! ### Equal containers -/

namespace Container

theorem get?_strip (c : Container) (key : String) :
    c.strip.get? key = (c.get? key).map Value.strip := by
  rw [strip_eq, get?, get?]
  induction c.entries with
  | nil => rfl
  | cons e rest ih =>
    rw [List.map_cons, lookup_cons_ite, lookup_cons_ite, ih]
    split <;> rfl

end Container

/-- Equal values are trimmed to equal values. -/
theorem Value.beq_strip {v w : Value} (h : v.beq w = true) : v.strip.beq w.strip = true := by
  refine beq_induction (motive := fun v w ↦ v.strip.beq w.strip = true) ?leaf ?list ?map v w h
  case leaf =>
    intro v hlist hmap
    refine beq_self (Value.Distinct.strip ?_)
    cases v with
    | list items => exact absurd rfl (hlist items)
    | map c => exact absurd rfl (hmap c)
    | _ => trivial
  case list =>
    intro items items' hitems
    rw [strip_list, strip_list]
    refine beq_list_iff.mpr ⟨_, rfl, ?_⟩
    exact List.forall₂_map_left_iff.mpr (List.forall₂_map_right_iff.mpr
      (hitems.imp fun _ _ hvw ↦ hvw.2))
  case map =>
    intro c d hcd hfound
    rw [strip_map, strip_map]
    refine beq_map_iff.mpr ⟨_, rfl, Container.beq_iff.mpr ⟨?_, fun e he ↦ ?_⟩⟩
    · simpa [Container.strip_eq, Container.length] using (Container.beq_iff.mp hcd).1
    · rw [Container.strip_eq] at he
      obtain ⟨e, hmem, rfl⟩ := List.mem_map.mp he
      obtain ⟨w, hw, -, hstrip⟩ := hfound e hmem
      exact ⟨w.strip, by rw [Container.get?_strip, hw, Option.map_some], hstrip⟩

namespace Container

theorem beq_strip {c d : Container} (h : (c == d) = true) : (c.strip == d.strip) = true := by
  rw [← Value.map_beq_map] at h ⊢
  rw [← Value.strip_map, ← Value.strip_map]
  exact Value.beq_strip h

/-- Trimming gives the counterpart of a container, the only one, and whatever text stands in this at
any depth is not empty and has no blank at its ends. A second time nothing changes, and equal
containers are trimmed to equal ones. -/
theorem strip_normalizes (c : Container) :
    (∀ d : Container, (Value.map c).Trims (.map d) ↔ d = c.strip) ∧
      (∀ s : String, (Value.map c.strip).HasText s →
        s ≠ "" ∧ Text.Stops Text.isBlank s.toList ∧ Text.Stops Text.isBlank s.toList.reverse) ∧
      c.strip.strip = c.strip ∧
      ∀ d : Container, (c == d) = true → (c.strip == d.strip) = true := by
  refine ⟨fun d ↦ ?_, fun s hs ↦ ?_, ?_, fun d ↦ beq_strip⟩
  · rw [Value.trims_iff, Value.strip_map, Value.map.injEq]
  · rw [← Value.strip_map] at hs
    obtain ⟨hne, htrim⟩ := hs.of_strip
    exact ⟨hne, htrim.starts, htrim.ends⟩
  · have hagain := (Value.map c).strip_strip
    rwa [Value.strip_map, Value.strip_map, Value.map.injEq] at hagain

theorem strip_normalizes_album :
    let genres : Value := .list [.list [.text "", .text "hip hop\n"], .text "\u3000"]
    let disc : Value := .map ⟨[("title", .text "\ttwo"), ("year", .integer 1999)],
      some "disc.xml", none⟩
    let c : Container := ⟨[("title", .text " Black Star "), ("genres", genres), ("disc", disc)],
      some "album.xml", none⟩
    let d : Container := ⟨[("disc", disc), ("title", .text " Black Star "), ("genres", genres)],
      none, none⟩
    let trimmed : Container := ⟨[("title", .text "Black Star"),
      ("genres", .list [.list [.nil, .text "hip hop"], .nil]),
      ("disc", .map ⟨[("title", .text "two"), ("year", .integer 1999)], some "disc.xml", none⟩)],
      some "album.xml", none⟩
    c.strip = trimmed ∧ (Value.map c).Trims (.map trimmed) ∧
      (Value.map trimmed).HasText "hip hop" ∧ "hip hop" ≠ "" ∧
      Text.Stops Text.isBlank "hip hop".toList ∧
      Text.Stops Text.isBlank "hip hop".toList.reverse ∧ trimmed.strip = trimmed ∧
      (c == d) = true ∧ (trimmed == d.strip) = true := by
  intro genres disc c d trimmed
  obtain ⟨htrims, htexts, hagain, hequal⟩ := strip_normalizes c
  have hblank : Text.trimmed "\u3000" = "" := by decide +kernel
  have hempty : Text.trimmed "" = "" := rfl
  have htitle : Text.trimmed " Black Star " = "Black Star" := by decide +kernel
  have hgenre : Text.trimmed "hip hop\n" = "hip hop" := by decide +kernel
  have hdisc : Text.trimmed "\ttwo" = "two" := by decide +kernel
  have hc : c.strip = trimmed := by
    simp [c, genres, disc, trimmed, strip, stripEntries, Value.strip, Value.stripAll, hblank,
      hempty, htitle, hgenre, hdisc]
  have hcd : (c == d) = true := by decide +kernel
  have hin : (Value.map trimmed).HasText "hip hop" :=
    .entry (List.mem_cons_of_mem _ List.mem_cons_self)
      (.item List.mem_cons_self (.item (List.mem_cons_of_mem _ List.mem_cons_self) .self))
  rw [hc] at htrims htexts hagain hequal
  obtain ⟨hne, hstart, hend⟩ := htexts "hip hop" hin
  exact ⟨hc, (htrims trimmed).mpr rfl, hin, hne, hstart, hend, hagain, hcd, hequal d hcd⟩

end Container

end MarkupRecords
