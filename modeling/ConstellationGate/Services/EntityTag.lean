import ConstellationGate.Lib.PrefixCode
import ConstellationGate.Services.CapabilityService

/-!
# Entity tags

`_etag_for` of `services/capability_service.py` digests the descriptors as they are dumped
(`etagPayload`) and keeps the first digits of the digest.  The dump of a descriptor tells the
descriptor and where it ends (`prefixCode_dumps`), so that different descriptors are never dumped
alike (`etagPayload_injective`): tags of different listings are equal only when the digests of two
different texts begin alike (`etagFor_injective`).
-/

namespace ConstellationGate

/-! ### Dumps -/

/-- What `_etag_for` digests. -/
def etagPayload (descriptors : List CapabilityDescriptor) : String :=
  "[" ++ ",".intercalate (descriptors.map CapabilityDescriptor.dumps) ++ "]"

/-- The digits that a tag keeps. -/
def shortDigest (sha256 : String → String) (payload : String) : List Char :=
  (sha256 payload).toList.take 16

lemma etagFor_eq (sha256 : String → String) (descriptors : List CapabilityDescriptor) :
    etagFor sha256 descriptors =
      "W/\"" ++ String.ofList (shortDigest sha256 (etagPayload descriptors)) ++ "\"" := rfl

/-- The fields of a descriptor in the order in which they are dumped. -/
def CapabilityDescriptor.fields (item : CapabilityDescriptor) :
    (String × Bool) × String × Option String :=
  ((item.action, item.advertised), item.contractVersion, item.owner)

lemma fields_injective : Function.Injective CapabilityDescriptor.fields := by
  rintro ⟨action, owner, contractVersion, advertised⟩ ⟨_, _, _, _⟩ h
  cases h
  rfl

/-- The characters of a truth value. -/
def boolCode (b : Bool) : List Char := if b then "true".toList else "false".toList

/-- The characters of a string that may be absent. -/
def ownerCode (owner : Option String) : List Char :=
  owner.elim "null".toList fun s => (Text.jsonQuoted s).toList

lemma prefixCode_boolCode : PrefixCode boolCode :=
  PrefixCode.word fun r r' heq => by simp at heq

lemma prefixCode_ownerCode : PrefixCode ownerCode := by
  refine Text.prefixCode_jsonQuoted.option fun s r r' heq => ?_
  simp [Text.toList_jsonQuoted] at heq

lemma toList_dumps (item : CapabilityDescriptor) :
    item.dumps.toList =
      ("\x7b\"action\":".toList ++
          ((Text.jsonQuoted item.action).toList ++ ",\"advertised\":".toList) ++
        ([] ++ (boolCode item.advertised ++ ",\"contract_version\":".toList))) ++
      (([] ++ ((Text.jsonQuoted item.contractVersion).toList ++ ",\"owner\":".toList)) ++
        ([] ++ (ownerCode item.owner ++ "\x7d".toList))) := by
  have hnames : ∀ s ∈ ["action", "advertised", "contract_version", "owner"],
      (Text.jsonQuoted s).toList = '"' :: s.toList ++ ['"'] := by
    unfold Text.jsonQuoted
    decide
  have hbool : (if item.advertised then "true" else "false").toList = boolCode item.advertised := by
    cases item.advertised <;> rfl
  have howner : (item.owner.elim "null" Text.jsonQuoted).toList = ownerCode item.owner := by
    cases item.owner <;> rfl
  simp [CapabilityDescriptor.dumps, jsonField, hnames, hbool, howner]

/-- A descriptor ends where its dump says. -/
lemma prefixCode_dumps : PrefixCode fun item : CapabilityDescriptor => item.dumps.toList := by
  have hstring := Text.prefixCode_jsonQuoted
  have hfirst := (hstring.between "\x7b\"action\":".toList ",\"advertised\":".toList).pair
    (prefixCode_boolCode.between [] ",\"contract_version\":".toList)
  have hlast := (hstring.between [] ",\"owner\":".toList).pair
    (prefixCode_ownerCode.between [] "\x7d".toList)
  have hfields := (hfirst.pair hlast).comp fields_injective
  intro item item' r r' heq
  simp only [toList_dumps] at heq
  exact hfields item item' r r' heq

/-- Different listings are dumped differently. -/
lemma etagPayload_injective : Function.Injective etagPayload := by
  have hitems : PrefixCode fun l : List CapabilityDescriptor =>
      ",".toList.intercalate (l.map fun item => item.dumps.toList) ++ "]".toList := by
    refine prefixCode_dumps.separated (fun item r r' heq => ?_) fun r r' heq => ?_
    · simp [toList_dumps] at heq
    · simp at heq
  intro descriptors descriptors' heq
  have hlist : ∀ l : List CapabilityDescriptor, (etagPayload l).toList =
      '[' :: (",".toList.intercalate (l.map fun item => item.dumps.toList) ++ "]".toList) := by
    intro l
    simp [etagPayload, String.toList_intercalate, Function.comp_def]
  have hchars := congrArg String.toList heq
  rw [hlist, hlist, List.cons.injEq] at hchars
  exact hitems.injective hchars.2

lemma stripped_etagFor (sha256 : String → String) (descriptors : List CapabilityDescriptor) :
    Text.Stripped (etagFor sha256 descriptors).toList := by
  rw [etagFor_eq]
  simp only [Text.Stripped, String.toList_append]
  constructor
  · intro c hc
    obtain rfl : 'W' = c := by simpa using hc
    decide
  · intro c hc
    have hlast : ("\"" : String).toList = ['"'] := rfl
    rw [hlast, List.getLast?_concat] at hc
    obtain rfl : '"' = c := by simpa using hc
    decide

/-- Tags are equal only when the digests of two texts begin alike. -/
lemma etagFor_injective {sha256 : String → String}
    {descriptors descriptors' : List CapabilityDescriptor}
    (heq : etagFor sha256 descriptors = etagFor sha256 descriptors')
    (hdigest : shortDigest sha256 (etagPayload descriptors) =
        shortDigest sha256 (etagPayload descriptors') →
      etagPayload descriptors = etagPayload descriptors') : descriptors = descriptors' := by
  rw [etagFor_eq, etagFor_eq] at heq
  have hchars := congrArg String.toList heq
  simp only [String.toList_append, String.toList_ofList, List.append_cancel_left_eq,
    List.append_cancel_right_eq] at hchars
  exact etagPayload_injective (hdigest hchars)

end ConstellationGate
