import Mathlib.Data.List.Basic
import Routing.Proofs.Message.Sending

/-! # Headers that are set

Setting a header is an update of a map whose keys are names up to the case of their letters: after any number
of calls a name has the value of its last call, or else what it had before. The map that is sent is updated
alike, and a value that is not valid takes the name out of it.
-/

namespace Routing

namespace Response

variable {response : Response} {calls : List (String × String)} {text value : String} {name : Http.HeaderName}

def setHeaders (response : Response) (calls : List (String × String)) : Response :=
  calls.foldl (fun response call => response.setHeader call.1 call.2) response

/-- The calls after which no other one sets the same header. -/
def lastCalls : List (String × String) → List (String × String)
  | [] => []
  | call :: calls =>
    if ∀ later ∈ calls, ¬ Http.SameName later.1 call.1 then call :: lastCalls calls else lastCalls calls

@[simp]
theorem setHeaders_cons (response : Response) (call : String × String) (calls : List (String × String)) :
    response.setHeaders (call :: calls) = (response.setHeader call.1 call.2).setHeaders calls := rfl

/-! ## The pairs of one name -/

theorem header?_eq_head? (response : Response) (name : String) :
    response.header? name = (response.headers.filter fun pair => Http.SameName pair.1 name).head?.map (·.2) := by
  rw [header?, List.head?_filter]

theorem namesakes_setHeader (response : Response) (text value name : String) :
    ((response.setHeader text value).headers.filter fun pair => Http.SameName pair.1 name) =
      if Http.SameName text name then [(text, value)]
      else response.headers.filter fun pair => Http.SameName pair.1 name := by
  rw [setHeader, List.filter_append, List.filter_filter]
  by_cases h : Http.SameName text name
  · have hGone : ∀ pair : String × String, Http.SameName pair.1 name → Http.SameName pair.1 text :=
      fun _ hPair => hPair.trans h.symm
    have hKept : (response.headers.filter fun pair =>
        Http.SameName pair.1 name && ¬ Http.SameName pair.1 text) = [] :=
      List.filter_eq_nil_iff.mpr fun pair _ => by simpa using hGone pair
    rw [hKept, List.nil_append, if_pos h, List.filter_cons_of_pos (by simpa using h), List.filter_nil]
  · have hOther : ∀ pair : String × String, Http.SameName pair.1 name → ¬ Http.SameName pair.1 text :=
      fun _ hPair hText => h (hText.symm.trans hPair)
    have hKept : (response.headers.filter fun pair =>
        Http.SameName pair.1 name && ¬ Http.SameName pair.1 text) =
          response.headers.filter fun pair => Http.SameName pair.1 name :=
      List.filter_congr fun pair _ => by simpa using hOther pair
    rw [hKept, if_neg h, List.filter_cons_of_neg (by simpa using h), List.filter_nil, List.append_nil]

theorem namesakes_setHeaders (response : Response) (calls : List (String × String)) (name : String) :
    ((response.setHeaders calls).headers.filter fun pair => Http.SameName pair.1 name) =
      match (calls.filter fun call => Http.SameName call.1 name).getLast? with
      | some last => [last]
      | none => response.headers.filter fun pair => Http.SameName pair.1 name := by
  induction calls generalizing response with
  | nil => rfl
  | cons call calls ih =>
    rw [setHeaders_cons, ih, namesakes_setHeader]
    by_cases h : Http.SameName call.1 name
    · rw [List.filter_cons_of_pos (by simpa using h), List.getLast?_cons, if_pos h]
      cases (calls.filter fun call => Http.SameName call.1 name).getLast? <;> rfl
    · rw [List.filter_cons_of_neg (by simpa using h), if_neg h]

theorem header?_setHeaders (response : Response) (calls : List (String × String)) (name : String) :
    (response.setHeaders calls).header? name =
      ((calls.filter fun call => Http.SameName call.1 name).getLast?.map (·.2)).or (response.header? name) := by
  rw [header?_eq_head?, namesakes_setHeaders, header?_eq_head?]
  cases (calls.filter fun call => Http.SameName call.1 name).getLast? <;> rfl

theorem namesakes_of_mem {call : String × String} (h : call ∈ calls) :
    ∃ last, (calls.filter fun other => Http.SameName other.1 call.1).getLast? = some last ∧
      ((response.setHeaders calls).headers.filter fun pair => Http.SameName pair.1 call.1) = [last] := by
  have hMem : call ∈ calls.filter fun other => Http.SameName other.1 call.1 :=
    List.mem_filter.mpr ⟨h, decide_eq_true rfl⟩
  have hLast := List.getLast?_eq_some_getLast (List.ne_nil_of_mem hMem)
  refine ⟨_, hLast, ?_⟩
  rw [namesakes_setHeaders, hLast]

/-! ## All pairs -/

theorem headers_setHeaders (response : Response) (calls : List (String × String)) :
    (response.setHeaders calls).headers =
      (response.headers.filter fun pair => ∀ call ∈ calls, ¬ Http.SameName call.1 pair.1) ++ lastCalls calls := by
  induction calls generalizing response with
  | nil => simp [setHeaders, lastCalls, List.filter_true]
  | cons call calls ih =>
    -- the pair that the first call puts at the end is taken out again by any later call of its name
    have hLast : ([call].filter fun pair => ∀ later ∈ calls, ¬ Http.SameName later.1 pair.1) ++ lastCalls calls =
        lastCalls (call :: calls) := by
      rw [lastCalls, List.filter_singleton]
      by_cases h : ∀ later ∈ calls, ¬ Http.SameName later.1 call.1
      · rw [decide_eq_true h, if_pos h]
        rfl
      · rw [decide_eq_false h, if_neg h]
        rfl
    rw [setHeaders_cons, ih, setHeader, List.filter_append, List.filter_filter, List.append_assoc, hLast]
    refine congrArg (· ++ _) (List.filter_congr fun pair _ => ?_)
    have hSymm : Http.SameName pair.1 call.1 ↔ Http.SameName call.1 pair.1 := eq_comm
    rw [Bool.eq_iff_iff, Bool.and_eq_true, decide_eq_true_eq, decide_eq_true_eq, decide_eq_true_eq,
      List.forall_mem_cons, hSymm, and_comm]

/-- Only the headers change. -/
theorem setHeaders_eq (response : Response) (calls : List (String × String)) :
    response.setHeaders calls = { response with headers := (response.setHeaders calls).headers } := by
  induction calls generalizing response with
  | nil => rfl
  | cons call calls ih => exact ih (response.setHeader call.1 call.2)

/-! ## The map that is sent -/

theorem validPair?_of_name (h : Http.HeaderName.ofString? text = some name) (value : String) :
    validPair? (text, value) = (Http.HeaderValue.ofBytes? (utf8 value)).map (name, ·) := by
  ext entry
  rw [validPair?_eq_some_iff, h, Option.some.injEq, ← Http.HeaderValue.ofBytes?_eq_some_iff,
    Option.map_eq_some_iff]
  constructor
  · rintro ⟨rfl, hValue⟩
    exact ⟨entry.2, hValue, rfl⟩
  · rintro ⟨field, hValue, rfl⟩
    exact ⟨rfl, hValue⟩

theorem filterMap_validPair?_filter (h : Http.HeaderName.ofString? text = some name)
    (pairs : List (String × String)) :
    (pairs.filter fun pair => ¬ Http.SameName pair.1 text).filterMap validPair? =
      (pairs.filterMap validPair?).filter fun entry => entry.1 ≠ name := by
  rw [List.filterMap_filter, List.filter_filterMap]
  refine List.filterMap_congr fun pair _ => ?_
  cases hPair : validPair? pair with
  | none => simp
  | some entry =>
    have hNamed := named_iff_of_validPair? h hPair
    by_cases hSame : Http.SameName pair.1 text
    · simp [hSame, Option.filter, hNamed.mpr hSame]
    · simp [hSame, Option.filter, mt hNamed.mp hSame]

theorem headers_toHttp_setHeader (h : Http.HeaderName.ofString? text = some name) (response : Response)
    (value : String) :
    (response.setHeader text value).toHttp.headers =
      match Http.HeaderValue.ofBytes? (utf8 value) with
      | some field => response.toHttp.headers.insert name field
      | none => response.toHttp.headers.erase name := by
  have hPair := validPair?_of_name h value
  have hKept : Http.HeaderMap.empty.addEntries
      ((response.headers.filter fun pair => ¬ Http.SameName pair.1 text).filterMap validPair?) =
        response.toHttp.headers.erase name := by
    rw [filterMap_validPair?_filter h, headers_toHttp, Http.HeaderMap.erase_addEntries,
      Http.HeaderMap.laws.erase_empty]
  rw [headers_toHttp, setHeader, List.filterMap_append, Http.HeaderMap.addEntries_append, hKept]
  cases hField : Http.HeaderValue.ofBytes? (utf8 value) with
  | none =>
    rw [hField, Option.map_none] at hPair
    rw [List.filterMap_cons_none hPair, List.filterMap_nil]
    rfl
  | some field =>
    rw [hField, Option.map_some] at hPair
    rw [List.filterMap_cons_some hPair, List.filterMap_nil]
    exact (Http.HeaderMap.laws.insert_eq ..).symm

theorem values_toHttp_setHeader (h : Http.HeaderName.ofString? text = some name) (response : Response)
    (value : String) (other : Http.HeaderName) :
    (response.setHeader text value).toHttp.headers.values other =
      if name = other then (Http.HeaderValue.ofBytes? (utf8 value)).toList
      else response.toHttp.headers.values other := by
  rw [headers_toHttp_setHeader h]
  cases Http.HeaderValue.ofBytes? (utf8 value) with
  | none => exact Http.HeaderMap.laws.values_erase ..
  | some field =>
    change (response.toHttp.headers.insert name field).values other = _
    rw [Http.HeaderMap.laws.insert_eq, Http.HeaderMap.laws.values_append, Http.HeaderMap.laws.values_erase]
    by_cases hName : name = other <;> simp [hName]

/-- Setting headers in any number of calls updates a map. A name in any spelling has the value of its last call, or
what it had before; its last call makes its only pair; the pairs of names that no call sets stay in front, in their
order. In the map that is sent the new value replaces all values of the name, or none does if it is not valid. -/
theorem setHeader_updates_map (response : Response) :
    (∀ calls : List (String × String),
      (∀ name, (response.setHeaders calls).header? name =
        ((calls.filter fun call => Http.SameName call.1 name).getLast?.map (·.2)).or (response.header? name)) ∧
      (∀ call ∈ calls, ∃ last, (calls.filter fun other => Http.SameName other.1 call.1).getLast? = some last ∧
        ((response.setHeaders calls).headers.filter fun pair => Http.SameName pair.1 call.1) = [last]) ∧
      (response.setHeaders calls).headers =
        (response.headers.filter fun pair => ∀ call ∈ calls, ¬ Http.SameName call.1 pair.1) ++ lastCalls calls ∧
      (response.setHeaders calls).status = response.status ∧
      (response.setHeaders calls).body = response.body) ∧
    ∀ text name value, Http.HeaderName.ofString? text = some name →
      (response.setHeader text value).toHttp.headers =
        (match Http.HeaderValue.ofBytes? (utf8 value) with
        | some field => response.toHttp.headers.insert name field
        | none => response.toHttp.headers.erase name) ∧
      ∀ other, (response.setHeader text value).toHttp.headers.values other =
        if name = other then (Http.HeaderValue.ofBytes? (utf8 value)).toList
        else response.toHttp.headers.values other := by
  refine ⟨fun calls => ?_, fun text name value h => ?_⟩
  · have hRest := setHeaders_eq response calls
    exact ⟨header?_setHeaders response calls, fun _ => namesakes_of_mem, headers_setHeaders response calls,
      by rw [hRest], by rw [hRest]⟩
  · exact ⟨headers_toHttp_setHeader h response value, values_toHttp_setHeader h response value⟩

/-- A value that is not valid takes away the name that was set before. -/
theorem setHeader_updates_map_of_tags :
    let response : Response := ⟨.ok, [("X-Tag", "a"), ("Age", "1"), ("x-tag", "b")], []⟩
    let calls := [("X-TAG", "c"), ("Host", "d"), ("x-Tag", "e")]
    ∃ name, Http.HeaderName.ofString? "x-tag" = some name ∧ ("X-TAG", "c") ∈ calls ∧
      (response.setHeaders calls).header? "X-TAG" = some "e" ∧
      ((response.setHeaders calls).headers.filter fun pair => Http.SameName pair.1 "X-TAG") = [("x-Tag", "e")] ∧
      (response.setHeaders calls).headers = [("Age", "1"), ("Host", "d"), ("x-Tag", "e")] ∧
      response.toHttp.headers.values name ≠ [] ∧
      (response.setHeader "x-tag" "line\nbreak").toHttp.headers.values name = [] := by
  intro response calls
  have hName : Http.HeaderName.ofString? "x-tag" = some ⟨"x-tag", "x-tag", by decide, by decide⟩ :=
    Http.HeaderName.ofString?_eq_some_iff.mpr ⟨by decide, by decide⟩
  have hMem : ("X-TAG", "c") ∈ calls := by decide
  obtain ⟨hCalls, hSent⟩ := setHeader_updates_map response
  obtain ⟨hHeader, hOnly, hHeaders, _, _⟩ := hCalls calls
  obtain ⟨last, hLast, hPairs⟩ := hOnly _ hMem
  have hEq : some last = some ("x-Tag", "e") := hLast.symm.trans (by decide)
  obtain ⟨_, hValues⟩ := hSent "x-tag" _ "line\nbreak" hName
  refine ⟨_, hName, hMem, (hHeader "X-TAG").trans (by decide), ?_, hHeaders.trans (by decide), by decide, ?_⟩
  · exact hPairs.trans (congrArg ([·]) (Option.some.inj hEq))
  · exact (hValues _).trans (by decide)

end Response

end Routing
