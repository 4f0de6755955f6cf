import ConstellationGate.Lib.FirstMatch
import ConstellationGate.Routing.ActionOwnership

/-!
# Names that contain the aliases of two owners

A name that is not an alias is recognised by the first alias that occurs in it.  That does not
depend on the order of the aliases as long as those that occur in the name belong to one owner.
Otherwise the name is ambiguous: it is granted the identity of an owner that the order of the table
decides, and with it that owner's canonical actions (`owner_unambiguous_iff`).
-/

namespace ConstellationGate

open FirstMatch

/-- What of a name is compared with the aliases. -/
def ownerKey (value : String) : String := Text.replaceChar (normalize value) ' ' '_'

/-- `normalizeOwner` over any table of aliases. -/
def normalizeOwnerIn (aliases : List (String × String)) (value : Option String)
    (allowUnknown : Bool) : Option String :=
  match value with
  | none => none
  | some value =>
    let key := Text.replaceChar (normalize value) ' ' '_'
    if key = "" then none
    else
      match aliases.lookup key with
      | some owner => some owner
      | none =>
        match aliases.find? fun e => Text.contains key e.1 with
        | some e => some e.2
        | none => if allowUnknown then some key else none

lemma normalizeOwner_eq (value : Option String) (allowUnknown : Bool) :
    normalizeOwner value allowUnknown = normalizeOwnerIn ownerAliases value allowUnknown :=
  rfl

/-- The name is not an alias, and aliases of two owners occur in it. -/
def Ambiguous (value : String) : Prop :=
  ownerKey value ∉ ownerAliases.map Prod.fst ∧
    ∃ e ∈ ownerAliases, ∃ e' ∈ ownerAliases, Text.contains (ownerKey value) e.1 = true ∧
      Text.contains (ownerKey value) e'.1 = true ∧ e.2 ≠ e'.2

instance (value : String) : Decidable (Ambiguous value) := by
  unfold Ambiguous
  infer_instance

/-! ### The order of the aliases -/

variable {value : String} {aliases : List (String × String)}

/-- An alias is recognised, then the first alias that occurs in the name, then the name itself. -/
lemma normalizeOwnerIn_some (aliases : List (String × String)) {value : String}
    (hkey : ownerKey value ≠ "") (allowUnknown : Bool) :
    normalizeOwnerIn aliases (some value) allowUnknown =
      ((aliases.lookup (ownerKey value)).or
        (firstMatch aliases (Text.contains (ownerKey value)))).or
        (if allowUnknown then some (ownerKey value) else none) := by
  rw [ownerKey] at hkey ⊢
  simp only [normalizeOwnerIn, if_neg hkey, firstMatch]
  generalize Text.replaceChar (normalize value) ' ' '_' = key
  rcases aliases.lookup key with _ | owner
  · rcases hfind : aliases.find? fun e => Text.contains key e.1 with _ | e <;> simp [hfind]
  · rfl

lemma nodup_ownerAliases : (ownerAliases.map Prod.fst).Nodup := by decide

lemma contains_empty_ownerAliases : ∀ e ∈ ownerAliases, Text.contains "" e.1 = false := by
  decide +kernel

/-- Without two owners to choose between, the aliases that occur in a name agree. -/
lemma oneValue_of_not_ambiguous (h : ¬ Ambiguous value)
    (hkey : ownerKey value ∉ ownerAliases.map Prod.fst) :
    OneValue ownerAliases (Text.contains (ownerKey value)) := by
  intro e he e' he' hin hin'
  by_contra hne
  exact h ⟨hkey, e, he, e', he', hin, hin', hne⟩

lemma normalizeOwnerIn_perm (h : ¬ Ambiguous value) (hperm : aliases.Perm ownerAliases)
    (allowUnknown : Bool) :
    normalizeOwnerIn aliases (some value) allowUnknown =
      normalizeOwner (some value) allowUnknown := by
  rw [normalizeOwner_eq]
  by_cases hkey : ownerKey value = ""
  · rw [ownerKey] at hkey
    simp only [normalizeOwnerIn, if_pos hkey]
  rw [normalizeOwnerIn_some _ hkey, normalizeOwnerIn_some _ hkey,
    lookup_perm nodup_ownerAliases hperm]
  rcases hlookup : ownerAliases.lookup (ownerKey value) with _ | owner
  · rw [firstMatch_perm (oneValue_of_not_ambiguous h (lookup_eq_none_iff.1 hlookup)) hperm]
  · rfl

namespace Ambiguous

lemma lookup (h : Ambiguous value) (hperm : aliases.Perm ownerAliases) :
    aliases.lookup (ownerKey value) = none := by
  rw [lookup_perm nodup_ownerAliases hperm]
  exact lookup_eq_none_iff.2 h.1

lemma ownerKey_ne_empty (h : Ambiguous value) : ownerKey value ≠ "" := by
  intro hempty
  obtain ⟨-, e, he, -, -, hin, -⟩ := h
  rw [hempty, contains_empty_ownerAliases e he] at hin
  exact Bool.false_ne_true hin

/-- The owner is that of the first alias that occurs in the name. -/
lemma normalizeOwnerIn (h : Ambiguous value) (hperm : aliases.Perm ownerAliases)
    (allowUnknown : Bool) :
    normalizeOwnerIn aliases (some value) allowUnknown =
      firstMatch aliases (Text.contains (ownerKey value)) := by
  obtain ⟨e, he, -, -, hin, -⟩ := h.2
  obtain ⟨owner, howner⟩ := Option.isSome_iff_exists.1
    (isSome_firstMatch (hperm.mem_iff.2 he) hin)
  rw [normalizeOwnerIn_some _ h.ownerKey_ne_empty, h.lookup hperm, howner]
  rfl

/-- Some order of the aliases gives another owner. -/
lemma exists_perm (h : Ambiguous value) (allowUnknown : Bool) :
    ∃ aliases : List (String × String), aliases.Perm ownerAliases ∧
      ConstellationGate.normalizeOwnerIn aliases (some value) allowUnknown ≠
        normalizeOwner (some value) allowUnknown := by
  by_contra hall
  push Not at hall
  obtain ⟨-, e, he, e', he', hin, hin', hne⟩ := id h
  refine hne (firstMatch_perm_iff.1 ?_ e he e' he' hin hin')
  intro aliases hperm
  rw [← h.normalizeOwnerIn hperm allowUnknown, hall aliases hperm, normalizeOwner_eq,
    h.normalizeOwnerIn (List.Perm.refl _)]

/-- The identity of one of the two owners is granted. -/
lemma granted (h : Ambiguous value) (allowUnknown : Bool) :
    ∃ e ∈ ownerAliases, Text.contains (ownerKey value) e.1 = true ∧
      normalizeOwner (some value) allowUnknown = some e.2 := by
  obtain ⟨e, he, -, -, hin, -⟩ := h.2
  obtain ⟨owner, howner⟩ := Option.isSome_iff_exists.1 (isSome_firstMatch he hin)
  obtain ⟨e', he', hin', rfl⟩ := exists_of_firstMatch howner
  exact ⟨e', he', hin', by rw [normalizeOwner_eq, h.normalizeOwnerIn (List.Perm.refl _), howner]⟩

end Ambiguous

/-! ### Registrations -/

/-- The text from which the owner of a registration is recognised. -/
def ownerText (nodeName : String) (metadata : Dict String String) : String :=
  match metadata.get? "owner" with
  | some owner => if Text.strip owner ≠ "" then owner else nodeName
  | none => nodeName

lemma ownerForRegistration_eq (nodeName : String) (metadata : Dict String String) :
    ∃ allowUnknown, ownerForRegistration nodeName metadata =
      normalizeOwner (some (ownerText nodeName metadata)) allowUnknown := by
  rw [ownerForRegistration, ownerText]
  rcases metadata.get? "owner" with _ | owner
  · exact ⟨false, rfl⟩
  · by_cases hblank : Text.strip owner = ""
    · exact ⟨false, by simp [hblank]⟩
    · exact ⟨true, by simp [hblank]⟩

lemma exists_canonical_action :
    ∀ e ∈ ownerAliases, ∃ a ∈ canonicalActionOwners,
      requiredOwnerForAction a.1 = some e.2 := by
  decide +kernel

/-- An ambiguous registration is accepted for a canonical action of the owner that it is
granted. -/
lemma exists_registration {nodeName : String} {metadata : Dict String String}
    (h : Ambiguous (ownerText nodeName metadata)) :
    ∃ action owner, requiredOwnerForAction action = some owner ∧
      assertRegistrationOwnership nodeName [action] metadata .empty .empty = .ok () := by
  obtain ⟨allowUnknown, hclaimant⟩ := ownerForRegistration_eq nodeName metadata
  obtain ⟨e, he, -, hgranted⟩ := h.granted allowUnknown
  obtain ⟨a, -, hrequired⟩ := exists_canonical_action e he
  refine ⟨a.1, e.2, hrequired, (assertRegistrationOwnership_ok_iff _ _ _ _ _).2 ?_⟩
  intro item hitem
  obtain rfl := List.mem_singleton.1 hitem
  refine ⟨?_, by simp [Dict.get?_empty]⟩
  intro required hreq
  rw [requiredOwnerForAction_normalize, hrequired] at hreq
  rw [hclaimant, hgranted]
  exact hreq

/-- The owner that a name is given does not depend on the order of the aliases, a name with the
aliases of two owners is given neither, and a registration under such a name is refused every
canonical action, each exactly when the name is not ambiguous. -/
theorem owner_unambiguous_iff (value : String) (allowUnknown : Bool) (nodeName : String)
    (metadata : Dict String String) :
    ((∀ aliases : List (String × String), aliases.Perm ownerAliases →
        normalizeOwnerIn aliases (some value) allowUnknown =
          normalizeOwner (some value) allowUnknown) ↔ ¬ Ambiguous value) ∧
    ((Ambiguous value → ∀ e ∈ ownerAliases, Text.contains (ownerKey value) e.1 = true →
        normalizeOwner (some value) allowUnknown ≠ some e.2) ↔ ¬ Ambiguous value) ∧
    ((Ambiguous (ownerText nodeName metadata) →
        ∀ supportedActions existing existingOwners,
          assertRegistrationOwnership nodeName supportedActions metadata existing existingOwners =
            .ok () →
          ∀ item ∈ supportedActions, requiredOwnerForAction item = none) ↔
      ¬ Ambiguous (ownerText nodeName metadata)) := by
  refine ⟨⟨fun horder h => ?_, fun h aliases hperm => normalizeOwnerIn_perm h hperm _⟩,
    ⟨fun hnever h => ?_, fun hnot h => absurd h hnot⟩,
    ⟨fun hrefused h => ?_, fun hnot h => absurd h hnot⟩⟩
  · obtain ⟨aliases, hperm, hne⟩ := h.exists_perm allowUnknown
    exact hne (horder aliases hperm)
  · obtain ⟨e, he, hin, hgranted⟩ := h.granted allowUnknown
    exact hnever h e he hin hgranted
  · obtain ⟨action, owner, hrequired, hok⟩ := exists_registration h
    have hnone := hrefused h [action] .empty .empty hok action (List.mem_singleton.2 rfl)
    rw [hrequired] at hnone
    exact Option.some_ne_none _ hnone

/-- A node whose name contains `enrichment` and `graph` may register an action of the graph engine;
with the aliases in the opposite order it is the enrichment engine. -/
theorem enrichmentGraph_granted_ceg :
    Ambiguous "enrichment-graph" ∧
    normalizeOwner (some "enrichment-graph") false = some "ceg" ∧
    normalizeOwnerIn ownerAliases.reverse (some "enrichment-graph") false = some "eie" ∧
    assertRegistrationOwnership "enrichment-graph" ["match"] .empty .empty .empty = .ok () := by
  decide +kernel

end ConstellationGate
