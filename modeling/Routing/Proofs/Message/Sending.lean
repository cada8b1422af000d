import Routing.Message.Response
import Routing.Proofs.Http.Laws

/-! # The headers of a response that is sent

A response holds spelled pairs, the response that is sent a header map. Lowering the case of a text does not
change whether it is a header name. So for every name the map has the valid values of just those pairs whose
names are the same but for their case, and there is one warning for every pair that is not in the map.
-/

namespace Routing

/-! ## Names in lower case -/

namespace Http

theorem isHeaderName_lower_iff {text : String} : IsHeaderName (lower text) ↔ IsHeaderName text := by
  simp only [IsHeaderName, IsToken, lower, String.toList_ofList, String.length_ofList, List.length_map,
    List.all_map, String.length_toList, ne_eq, String.ofList_eq_empty_iff, List.map_eq_nil_iff,
    String.toList_eq_nil_iff, Function.comp_def, fieldLaws.toLower]

/-- The texts that give a header name are the spellings of any one of them. -/
theorem HeaderName.ofString?_eq_some_iff_sameName {text other : String} {name : HeaderName}
    (h : ofString? text = some name) : ofString? other = some name ↔ SameName other text := by
  obtain ⟨hText, hName⟩ := ofString?_eq_some_iff.mp h
  rw [ofString?_eq_some_iff, hName]
  constructor
  · exact fun hOther => hOther.2.symm
  · intro hSame
    have hLower : lower other = lower text := hSame
    exact ⟨isHeaderName_lower_iff.mp (hLower ▸ isHeaderName_lower_iff.mpr hText), hLower.symm⟩

/-! ## Maps of entries -/

namespace HeaderMap

/-- The map to which entries have been added one after the other. -/
def addEntries (headers : HeaderMap) (entries : List (HeaderName × HeaderValue)) : HeaderMap :=
  entries.foldl (fun headers entry => headers.append entry.1 entry.2) headers

theorem addEntries_cons (headers : HeaderMap) (entry : HeaderName × HeaderValue)
    (entries : List (HeaderName × HeaderValue)) :
    headers.addEntries (entry :: entries) = (headers.append entry.1 entry.2).addEntries entries := rfl

theorem addEntries_append (headers : HeaderMap) (entries more : List (HeaderName × HeaderValue)) :
    headers.addEntries (entries ++ more) = (headers.addEntries entries).addEntries more :=
  List.foldl_append

theorem values_addEntries (headers : HeaderMap) (entries : List (HeaderName × HeaderValue)) (name : HeaderName) :
    (headers.addEntries entries).values name =
      headers.values name ++ entries.filterMap fun entry => if entry.1 = name then some entry.2 else none := by
  induction entries generalizing headers with
  | nil => simp [addEntries]
  | cons entry entries ih =>
    rw [addEntries_cons, ih, laws.values_append, List.append_assoc, List.filterMap_cons]
    by_cases hName : entry.1 = name <;> simp [hName]

theorem erase_addEntries (headers : HeaderMap) (entries : List (HeaderName × HeaderValue)) (name : HeaderName) :
    (headers.addEntries entries).erase name =
      (headers.erase name).addEntries (entries.filter fun entry => entry.1 ≠ name) := by
  induction entries generalizing headers with
  | nil => rfl
  | cons entry entries ih =>
    rw [addEntries_cons, ih, laws.erase_append]
    by_cases hName : entry.1 = name
    · rw [if_pos hName, List.filter_cons_of_neg (by simpa using hName)]
    · rw [if_neg hName, List.filter_cons_of_pos (by simpa using hName), addEntries_cons]

end HeaderMap

end Http

namespace Response

variable {response : Response} {pair : String × String} {entry : Http.HeaderName × Http.HeaderValue}
  {text value : String} {name : Http.HeaderName}

/-! ## Valid pairs -/

def IsValidPair (pair : String × String) : Prop :=
  Http.IsHeaderName pair.1 ∧ (utf8 pair.2).all Http.isFieldByte

instance (pair : String × String) : Decidable (IsValidPair pair) :=
  inferInstanceAs (Decidable (_ ∧ _))

theorem validPair?_eq_some_iff :
    validPair? pair = some entry ↔
      Http.HeaderName.ofString? pair.1 = some entry.1 ∧ entry.2.bytes = utf8 pair.2 :=
  Http.field?_eq_some_iff

theorem validPair?_eq_none_iff : validPair? pair = none ↔ ¬ IsValidPair pair := by
  rw [Option.eq_none_iff_forall_ne_some]
  constructor
  · rintro hNone ⟨hName, hValue⟩
    exact hNone (⟨_, _, hName, rfl⟩, ⟨_, hValue⟩)
      (validPair?_eq_some_iff.mpr ⟨Http.HeaderName.ofString?_eq_some_iff.mpr ⟨hName, rfl⟩, rfl⟩)
  · intro hInvalid entry hEntry
    obtain ⟨hName, hValue⟩ := validPair?_eq_some_iff.mp hEntry
    exact hInvalid ⟨(Http.HeaderName.ofString?_eq_some_iff.mp hName).1, hValue ▸ entry.2.valid⟩

theorem named_iff_of_validPair? (h : Http.HeaderName.ofString? text = some name)
    (hPair : validPair? pair = some entry) : entry.1 = name ↔ Http.SameName pair.1 text := by
  rw [← Http.HeaderName.ofString?_eq_some_iff_sameName h, (validPair?_eq_some_iff.mp hPair).1, Option.some.injEq]

/-- The loop over the pairs adds the valid ones to the map and warns about the others. -/
theorem foldl_sendPair (pairs : List (String × String)) (sent : Http.HeaderMap × List Event) :
    pairs.foldl sendPair sent =
      (sent.1.addEntries (pairs.filterMap validPair?),
        sent.2 ++ (pairs.filter fun pair => (validPair? pair).isNone).map fun pair => .headerDropped pair.1) := by
  induction pairs generalizing sent with
  | nil => simp [Http.HeaderMap.addEntries]
  | cons pair pairs ih =>
    rw [List.foldl_cons, ih, sendPair, List.filterMap_cons, List.filter_cons]
    cases validPair? pair <;> simp [Http.HeaderMap.addEntries_cons]

theorem headers_toHttp (response : Response) :
    response.toHttp.headers = Http.HeaderMap.empty.addEntries (response.headers.filterMap validPair?) := by
  rw [toHttp, sendHeaders, foldl_sendPair]

/-! ## The values of a name -/

theorem values_toHttp (h : Http.HeaderName.ofString? text = some name) :
    (response.toHttp.headers.values name).map Http.HeaderValue.bytes =
      ((response.headers.filter fun pair => Http.SameName pair.1 text).map fun pair => utf8 pair.2).filter
        (·.all Http.isFieldByte) := by
  rw [headers_toHttp, Http.HeaderMap.values_addEntries, Http.HeaderMap.laws.values_empty, List.nil_append]
  induction response.headers with
  | nil => rfl
  | cons pair pairs ih =>
    cases hValid : validPair? pair with
    | none =>
      -- a pair of that name is not in the map for its value only
      have hDropped : Http.SameName pair.1 text → (utf8 pair.2).all Http.isFieldByte = false := by
        intro hName
        have hSame := (Http.HeaderName.ofString?_eq_some_iff_sameName h).mpr hName
        have hHeader := (Http.HeaderName.ofString?_eq_some_iff.mp hSame).1
        exact Bool.eq_false_iff.mpr fun hField => validPair?_eq_none_iff.mp hValid ⟨hHeader, hField⟩
      rw [List.filterMap_cons_none hValid, ih]
      by_cases hName : Http.SameName pair.1 text <;> simp [hName, hDropped]
    | some entry =>
      have hNamed := named_iff_of_validPair? h hValid
      have hBytes := (validPair?_eq_some_iff.mp hValid).2
      have hField : (utf8 pair.2).all Http.isFieldByte := hBytes ▸ entry.2.valid
      rw [List.filterMap_cons_some hValid, List.filterMap_cons]
      by_cases hName : Http.SameName pair.1 text
      · simp [hNamed.mpr hName, hName, hField, hBytes, ih]
      · simp [mt hNamed.mp hName, hName, ih]

theorem mem_names_toHttp_iff :
    name ∈ response.toHttp.headers.entries.map Prod.fst ↔
      ∃ pair ∈ response.headers, Http.HeaderName.ofString? pair.1 = some name ∧
        (utf8 pair.2).all Http.isFieldByte := by
  refine (Http.HeaderMap.laws.mem_names_iff _ name).trans ?_
  rw [headers_toHttp, Http.HeaderMap.values_addEntries, Http.HeaderMap.laws.values_empty, List.nil_append]
  simp only [List.mem_filterMap, validPair?_eq_some_iff]
  constructor
  · rintro ⟨value, entry, ⟨pair, hMem, hName, hBytes⟩, hEntry⟩
    obtain ⟨rfl, _⟩ := Option.ite_none_right_eq_some.mp hEntry
    exact ⟨pair, hMem, hName, hBytes ▸ entry.2.valid⟩
  · rintro ⟨pair, hMem, hName, hField⟩
    exact ⟨⟨_, hField⟩, (name, ⟨_, hField⟩), ⟨pair, hMem, hName, rfl⟩, by simp⟩

/-- The value that the response tells for a name is the first one in the map, if it is valid. -/
theorem head?_values_toHttp (h : Http.HeaderName.ofString? text = some name)
    (hHeader : response.header? text = some value) (hField : (utf8 value).all Http.isFieldByte) :
    ((response.toHttp.headers.values name).map Http.HeaderValue.bytes).head? = some (utf8 value) := by
  obtain ⟨pair, hFind, rfl⟩ := Option.map_eq_some_iff.mp hHeader
  rw [← List.head?_filter] at hFind
  obtain ⟨pairs, hPairs⟩ := List.head?_eq_some_iff.mp hFind
  rw [values_toHttp h, hPairs, List.map_cons, List.filter_cons_of_pos (by simpa using hField), List.head?_cons]

theorem droppedHeaders_eq (response : Response) :
    response.droppedHeaders =
      (response.headers.filter fun pair => ¬ IsValidPair pair).map fun pair => .headerDropped pair.1 := by
  rw [droppedHeaders, sendHeaders, foldl_sendPair, List.nil_append]
  refine congrArg (List.map _) (List.filter_congr fun pair _ => ?_)
  rw [Bool.eq_iff_iff, Option.isNone_iff_eq_none, validPair?_eq_none_iff, decide_eq_true_eq]

/-- Sending a response keeps its status and its body and loses no valid header. For each name the map has, in their
order, the valid values of the pairs with that name in whatever spelling, so the first one is what the response
tells if that is valid; it has no other names; and each pair that is not valid makes one warning. -/
theorem toHttp_keeps_valid_headers (response : Response) :
    response.toHttp.status = response.status ∧ response.toHttp.body = response.body ∧
    (∀ text name, Http.HeaderName.ofString? text = some name →
      (response.toHttp.headers.values name).map Http.HeaderValue.bytes =
        ((response.headers.filter fun pair => Http.SameName pair.1 text).map fun pair => utf8 pair.2).filter
          (·.all Http.isFieldByte) ∧
      ∀ value, response.header? text = some value → (utf8 value).all Http.isFieldByte →
        ((response.toHttp.headers.values name).map Http.HeaderValue.bytes).head? = some (utf8 value)) ∧
    (∀ name, name ∈ response.toHttp.headers.entries.map Prod.fst ↔
      ∃ pair ∈ response.headers, Http.HeaderName.ofString? pair.1 = some name ∧
        (utf8 pair.2).all Http.isFieldByte) ∧
    response.droppedHeaders =
      (response.headers.filter fun pair =>
        ¬ (Http.IsHeaderName pair.1 ∧ (utf8 pair.2).all Http.isFieldByte)).map fun pair =>
          .headerDropped pair.1 :=
  ⟨rfl, rfl, fun _ _ h => ⟨values_toHttp h, fun _ => head?_values_toHttp h⟩, fun _ => mem_names_toHttp_iff,
    droppedHeaders_eq response⟩

/-- Of the four pairs two are values of one name, one has no valid name and one no valid value. -/
theorem toHttp_keeps_valid_headers_in_any_spelling :
    let response : Response :=
      ⟨.ok, [("X-Tag", "a"), ("bad name", "b"), ("x-tag", "line\nbreak"), ("X-TAG", "é")], []⟩
    ∃ name, Http.HeaderName.ofString? "x-Tag" = some name ∧ response.header? "x-Tag" = some "a" ∧
      (response.toHttp.headers.values name).map Http.HeaderValue.bytes = [utf8 "a", utf8 "é"] ∧
      ((response.toHttp.headers.values name).map Http.HeaderValue.bytes).head? = some (utf8 "a") ∧
      response.droppedHeaders = [.headerDropped "bad name", .headerDropped "x-tag"] := by
  intro response
  have hName : Http.HeaderName.ofString? "x-Tag" = some ⟨"x-tag", "x-Tag", by decide, by decide⟩ :=
    Http.HeaderName.ofString?_eq_some_iff.mpr ⟨by decide, by decide⟩
  have hHeader : response.header? "x-Tag" = some "a" := by decide
  obtain ⟨_, _, hKept, _, hDropped⟩ := toHttp_keeps_valid_headers response
  obtain ⟨hValues, hFirst⟩ := hKept _ _ hName
  refine ⟨_, hName, hHeader, hValues.trans (by decide), hFirst "a" hHeader (by decide), hDropped.trans (by decide)⟩

end Response

end Routing
