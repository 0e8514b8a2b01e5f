/-
# `Target` — which form ids stay one segment of the path that is called

The id of a form is put into the path of a call as it is.  For most ids that makes one segment which
stands for the id (`IsPlainId`).  A mark in the id ends the path instead, an id of dots removes
segments, and an escape in the id stands for another character.  Where a mark or dots are at work the
path has too few segments, whatever the base address is; where an escape is, the segment stands for
another id.
-/
import Winnow.Proofs.Service.Calls
import Winnow.Proofs.Web.Paths

namespace Winnow

open Text Percent Url

/-- The path of a call, without its query. -/
def Call.path (call : Call) : List Char := (cutAt '?' call.target.toList).1

/-- The id has no mark. -/
def IsUnmarked (formId : List Char) : Prop := ∀ c ∈ formId, isMark c = false

/-- The id stands for nothing but itself in a path. -/
structure IsPlainId (formId : List Char) : Prop where
  unmarked : IsUnmarked formId
  segment : IsPlainSegment formId
  escapes : ¬ HasEscape formId

/-! ## Segments -/

theorem pieces_below (base rest : List Char) :
    pieces '/' (base ++ "/api/forms/".toList ++ rest)
      = pieces '/' base ++ ["api".toList, "forms".toList] ++ pieces '/' rest := by
  have hsplit : base ++ "/api/forms/".toList ++ rest
      = base ++ '/' :: ("api".toList ++ '/' :: ("forms".toList ++ '/' :: rest)) := by
    rw [List.append_assoc]
    rfl
  have hapi : '/' ∉ "api".toList := by decide
  have hforms : '/' ∉ "forms".toList := by decide
  rw [hsplit, pieces_append, pieces_append, pieces_append, pieces_of_not_mem hapi,
    pieces_of_not_mem hforms, List.append_assoc]
  rfl

theorem pieces_submissions (segment : List Char) :
    pieces '/' (segment ++ "/submissions".toList)
      = pieces '/' segment ++ ["submissions".toList] := by
  have hname : '/' ∉ "submissions".toList := by decide
  have hsplit : segment ++ "/submissions".toList = segment ++ '/' :: "submissions".toList := rfl
  rw [hsplit, pieces_append, pieces_of_not_mem hname]

/-! ## References -/

theorem beforeMarks_append {cs : List Char} (h : IsUnmarked cs) (rest : List Char) :
    beforeMarks (cs ++ rest) = cs ++ beforeMarks rest :=
  List.takeWhile_append_of_pos fun c hc => by rw [h c hc]; rfl

/-- A mark in the id ends the path inside the id. -/
theorem slash_not_mem_beforeMarks {formId : List Char} (hslash : '/' ∉ formId)
    (h : ¬ IsUnmarked formId) (rest : List Char) : '/' ∉ beforeMarks (formId ++ rest) := by
  rw [beforeMarks, List.takeWhile_append]
  split
  · next hlen =>
    refine absurd (fun c hc => ?_) h
    have hall := List.takeWhile_eq_self_iff.mp
      ((List.takeWhile_sublist _).eq_of_length hlen) c hc
    exact Bool.not_eq_true' (isMark c) ▸ hall
  · exact fun hmem => hslash ((List.takeWhile_sublist _).mem hmem)

theorem resolve?_submissionsPath {base : Url} {formId path : List Char} (hbase : base.IsBase)
    (h : base.resolve? (App.submissionsPath formId) = some path) :
    path = encode isPathChar (removeDots (base.stem ++ "/api/forms/".toList ++
      encode isPathChar (beforeMarks (formId ++ "/submissions".toList)))) := by
  have hstart : ∀ c ∈ "/api/forms/".toList, isMark c = false := by simp [isMark]
  have hself : encode isPathChar "/api/forms/".toList = "/api/forms/".toList :=
    encode_eq_self (List.all_eq_true.mp rfl)
  have hdrop : ∀ rest, ("/api/forms/".toList ++ rest).dropWhile (· = '/')
      = "api/forms/".toList ++ rest := fun _ => rfl
  rw [resolve?_eq_some hbase h, App.submissionsPath_eq, beforeMarks_append hstart,
    encode_append, hself, hdrop, List.append_assoc]
  rfl

/-- The path that an id without marks and dots leads to. -/
theorem path_of_unmarked {base : Url} {formId path : List Char} (hbase : base.IsBase)
    (hslash : '/' ∉ formId) (hmarks : IsUnmarked formId) (hsegment : IsPlainSegment formId)
    (h : base.resolve? (App.submissionsPath formId) = some path) :
    path = base.stem ++ "/api/forms/".toList ++
      (encode isPathChar formId ++ "/submissions".toList) := by
  have hend : beforeMarks "/submissions".toList = "/submissions".toList := by decide
  have hself : encode isPathChar "/submissions".toList = "/submissions".toList := by decide
  have hencoded : '/' ∉ encode isPathChar formId := fun hmem => hslash (slash_mem_of_mem_encode hmem)
  have hplain : ∀ s ∈ pieces '/' (base.stem ++ "/api/forms/".toList ++
      (encode isPathChar formId ++ "/submissions".toList)), IsPlainSegment s := by
    rw [pieces_below, pieces_submissions, pieces_of_not_mem hencoded]
    refine List.forall_mem_append.mpr ⟨List.forall_mem_append.mpr ⟨?_, ?_⟩, ?_⟩
    · exact plain_of_mem_pieces_stem hbase.toHasPlainPath
    · intro s hs
      simp only [List.mem_cons, List.not_mem_nil, or_false] at hs
      rcases hs with rfl | rfl <;> exact ⟨by decide, by decide⟩
    · intro s hs
      simp only [List.cons_append, List.nil_append, List.mem_cons, List.not_mem_nil, or_false] at hs
      rcases hs with rfl | rfl
      · exact isPlainSegment_encode hsegment
      · exact ⟨by decide, by decide⟩
  have hchars : ∀ c ∈ base.stem ++ "/api/forms/".toList ++
      (encode isPathChar formId ++ "/submissions".toList), isPathChar c = true := by
    refine List.forall_mem_append.mpr
      ⟨List.forall_mem_append.mpr ⟨?_, List.all_eq_true.mp rfl⟩,
        List.forall_mem_append.mpr ⟨?_, List.all_eq_true.mp rfl⟩⟩
    · exact isPathChar_of_mem_stem hbase.toHasPlainPath
    · exact keep_of_mem_encode keepsEscapes_isPathChar
  rw [resolve?_submissionsPath hbase h, beforeMarks_append hmarks, hend, encode_append, hself,
    removeDots_of_plain hplain, encode_eq_self hchars]

/-- The segments of a base address with those that all forms are below, the last one first. -/
def formSegments (base : Url) : List (List Char) :=
  "forms".toList :: "api".toList :: (pieces '/' base.stem).reverse

theorem length_formSegments (base : Url) :
    (formSegments base).length = (pieces '/' base.stem).length + 2 := by
  rw [formSegments, List.length_cons, List.length_cons, List.length_reverse]

/-- There are no more segments in a path than are left after taking those below all forms. -/
theorem length_pieces_path_le {base : Url} (hbase : base.IsBase) (rest : List Char) :
    (pieces '/' (encode isPathChar (removeDots (base.stem ++ "/api/forms/".toList ++ rest)))).length
      ≤ max 1 ((pieces '/' rest).foldl takeSegment (formSegments base)).length := by
  have hplain : ∀ s ∈ pieces '/' base.stem ++ ["api".toList, "forms".toList],
      IsPlainSegment s := by
    refine List.forall_mem_append.mpr ⟨plain_of_mem_pieces_stem hbase.toHasPlainPath, ?_⟩
    intro s hs
    simp only [List.mem_cons, List.not_mem_nil, or_false] at hs
    rcases hs with rfl | rfl <;> exact ⟨by decide, by decide⟩
  have hseen : (pieces '/' base.stem ++ ["api".toList, "forms".toList]).foldl takeSegment []
      = formSegments base := by
    rw [foldl_takeSegment_of_plain _ _ hplain, List.append_nil, List.reverse_append]
    rfl
  have hle := length_pieces_removeDots_le (base.stem ++ "/api/forms/".toList ++ rest)
  rw [segmentsLeft, List.length_reverse, pieces_below, List.foldl_append, hseen] at hle
  rw [pieces_encode, List.length_map]
  exact hle

/-- The path that an id with marks, or of dots, leads to is too short. -/
theorem length_pieces_path_lt {base : Url} {formId path : List Char} (hbase : base.IsBase)
    (hslash : '/' ∉ formId) (hnot : ¬ (IsUnmarked formId ∧ IsPlainSegment formId))
    (h : base.resolve? (App.submissionsPath formId) = some path) :
    (pieces '/' path).length < (pieces '/' base.stem).length + 4 := by
  rw [resolve?_submissionsPath hbase h]
  refine Nat.lt_of_le_of_lt (length_pieces_path_le hbase _) ?_
  have hlength := length_formSegments base
  by_cases hmarks : IsUnmarked formId
  · have hdots : ¬ IsPlainSegment formId := fun hsegment => hnot ⟨hmarks, hsegment⟩
    have hself : encode isPathChar formId = formId := by
      by_cases hdot : formId = ['.']
      · rw [hdot]
        rfl
      · by_cases hdots' : formId = ['.', '.']
        · rw [hdots']
          rfl
        · exact absurd ⟨hdot, hdots'⟩ hdots
    have hend : beforeMarks "/submissions".toList = "/submissions".toList := by decide
    have hname : encode isPathChar "/submissions".toList = "/submissions".toList := by decide
    rw [beforeMarks_append hmarks, hend, encode_append, hself, hname, pieces_submissions,
      pieces_of_not_mem hslash]
    have hfirst := @length_takeSegment_of_not_plain (formSegments base) _ hdots
    have hsecond := length_takeSegment_le (takeSegment (formSegments base) formId)
      "submissions".toList
    simp only [List.singleton_append, List.foldl_cons, List.foldl_nil]
    omega
  · have hrest := slash_not_mem_beforeMarks hslash hmarks "/submissions".toList
    rw [pieces_of_not_mem fun hmem => hrest (slash_mem_of_mem_encode hmem)]
    have hfirst := length_takeSegment_le (formSegments base)
      (encode isPathChar (beforeMarks (formId ++ "/submissions".toList)))
    simp only [List.foldl_cons, List.foldl_nil]
    omega

namespace App

variable {app : App} {r : Request} {reply : Reply} {formId : List Char} {call : Call}

theorem exists_call?_of_mem [Present] [Limits] (hr : r.AsksFor formId)
    (hcall : call ∈ (app.handle r reply).calls) : ∃ q, app.call? formId q = some call := by
  obtain ⟨formId', _, q, haccepted, -, hq⟩ := isAccepted_of_mem_calls hcall
  cases formId_unique hr haccepted.toAsksFor
  exact ⟨q, hq⟩

/-- The path of a call is the one that its reference leads to. -/
theorem resolve?_eq_path [Present] [Limits] (hbase : app.base.IsBase) (hr : r.AsksFor formId)
    (hcall : call ∈ (app.handle r reply).calls) :
    app.base.resolve? (submissionsPath formId) = some call.path := by
  obtain ⟨q, hq⟩ := exists_call?_of_mem hr hcall
  obtain ⟨path, fields, hpath, -, rfl⟩ := call?_eq_some_iff.mp hq
  have hmark : '?' ∉ path := by
    rw [resolve?_eq_some hbase hpath]
    exact fun hmem => absurd (keep_of_mem_encode keepsEscapes_isPathChar _ hmem) (by decide)
  rw [hpath, Call.path, String.toList_ofList, cutAt_append _ hmark]

theorem isBase_of_ofSettings {s : Settings} (hs : ofSettings s = .ok app)
    (hscheme : app.base.scheme = "http".toList ∨ app.base.scheme = "https".toList)
    (hquery : app.base.query = none) : app.base.IsBase := by
  obtain ⟨⟨base, hread, rfl⟩, -⟩ := ofSettings_eq_ok_iff.mp hs
  have hne : base.scheme ≠ [] := by
    intro hnil
    rcases hscheme with h | h <;> cases hnil.symm.trans h
  exact { toHasPlainPath := hasPlainPath_of_read? hread hne, scheme := hne, query := hquery }

/-- The id of a form is one segment of the path that is called, standing for the id, exactly if the
id is plain; and plain ids that differ have different targets. -/
theorem form_id_is_segment_iff [Present] [Limits] {s : Settings} (hs : ofSettings s = .ok app)
    (hscheme : app.base.scheme = "http".toList ∨ app.base.scheme = "https".toList)
    (hquery : app.base.query = none) (hr : r.AsksFor formId)
    (hcall : call ∈ (app.handle r reply).calls) :
    ((∃ segment, '/' ∉ segment ∧ decode segment = formId ∧
        call.path = app.base.stem ++ "/api/forms/".toList ++
          (segment ++ "/submissions".toList)) ↔ IsPlainId formId) ∧
    ∀ {r' : Request} {reply' : Reply} {formId' : List Char} {call' : Call}, r'.AsksFor formId' →
      call' ∈ (app.handle r' reply').calls → IsPlainId formId → IsPlainId formId' →
      call'.target = call.target → formId' = formId := by
  have hbase := isBase_of_ofSettings hs hscheme hquery
  have hpath := resolve?_eq_path hbase hr hcall
  obtain ⟨-, hslash, -⟩ := route?_eq_responses_iff.mp hr.route
  refine ⟨⟨?_, ?_⟩, ?_⟩
  · rintro ⟨segment, hsegment, hdecode, hcalled⟩
    by_cases hplain : IsUnmarked formId ∧ IsPlainSegment formId
    · have hunmarked := path_of_unmarked hbase hslash hplain.1 hplain.2 hpath
      rw [hcalled] at hunmarked
      have hsame := List.append_cancel_right (List.append_cancel_left hunmarked)
      rw [hsame] at hdecode
      exact ⟨hplain.1, hplain.2, (decode_encode_iff keepsEscapes_isPathChar).mp hdecode⟩
    · have hshort := length_pieces_path_lt hbase hslash hplain hpath
      rw [hcalled, pieces_below, pieces_submissions, pieces_of_not_mem hsegment] at hshort
      simp only [List.length_append, List.length_cons, List.length_nil] at hshort
      omega
  · intro hplain
    refine ⟨encode isPathChar formId, fun hmem => hslash (slash_mem_of_mem_encode hmem),
      (decode_encode_iff keepsEscapes_isPathChar).mpr hplain.escapes, ?_⟩
    exact path_of_unmarked hbase hslash hplain.unmarked hplain.segment hpath
  · intro r' reply' formId' call' hr' hcall' hplain hplain' htarget
    obtain ⟨-, hslash', -⟩ := route?_eq_responses_iff.mp hr'.route
    have hpath' := resolve?_eq_path hbase hr' hcall'
    have hcalled := path_of_unmarked hbase hslash hplain.unmarked hplain.segment hpath
    have hcalled' := path_of_unmarked hbase hslash' hplain'.unmarked hplain'.segment hpath'
    have hpaths : call'.path = call.path := by rw [Call.path, htarget, Call.path]
    rw [hcalled, hcalled'] at hpaths
    have hsame := List.append_cancel_right (List.append_cancel_left hpaths)
    rw [← (decode_encode_iff keepsEscapes_isPathChar).mpr hplain'.escapes, hsame,
      (decode_encode_iff keepsEscapes_isPathChar).mpr hplain.escapes]

/-- A blank, a letter beyond ASCII and a percent sign that starts no escape leave an id plain. -/
theorem blank_and_percent_make_one_segment :
    let _ : Present := ⟨2025⟩
    let _ : Limits := .usual
    let r := Request.get "/a é%4/filteredResponses" ""
    (ofSettings plain.settings = .ok plain ∧
      (plain.base.scheme = "http".toList ∨ plain.base.scheme = "https".toList) ∧
      plain.base.query = none ∧ r.AsksFor "a é%4".toList ∧ IsPlainId "a é%4".toList) ∧
    ∃ call, (plain.handle r .failed).calls = [call] ∧
      ∃ segment, '/' ∉ segment ∧ decode segment = "a é%4".toList ∧
        call.path = plain.base.stem ++ "/api/forms/".toList ++
          (segment ++ "/submissions".toList) := by
  intro present limits r
  have hr : r.AsksFor "a é%4".toList := ⟨rfl, by decide⟩
  have hplain : IsPlainId "a é%4".toList := by
    refine ⟨by simp [IsUnmarked, isMark], ⟨by decide, by decide⟩, ?_⟩
    rw [← decode_encode_iff keepsEscapes_isPathChar]
    decide +kernel
  obtain ⟨call, hcall⟩ := List.length_eq_one_iff.mp
    (by decide +kernel : (plain.handle r .failed).calls.length = 1)
  have hmem : call ∈ (plain.handle r .failed).calls := by
    rw [hcall]
    exact List.mem_cons_self
  exact ⟨⟨ofSettings_plain, Or.inl rfl, rfl, hr, hplain⟩, call, hcall,
    (form_id_is_segment_iff ofSettings_plain (Or.inl rfl) rfl hr hmem).1.mpr hplain⟩

/-- A question mark in the id ends the path before it. -/
theorem question_mark_ends_path :
    let _ : Present := ⟨2025⟩
    let _ : Limits := .usual
    let r := Request.get "/a?b/filteredResponses" ""
    ofSettings plain.settings = .ok plain ∧ plain.base.scheme = "http".toList ∧
      plain.base.query = none ∧ r.AsksFor "a?b".toList ∧
      (plain.handle r .failed).calls.map Call.path = ["/api/forms/a".toList] ∧
      ¬ ∃ segment, "/api/forms/a".toList = plain.base.stem ++ "/api/forms/".toList ++
        (segment ++ "/submissions".toList) := by
  intro present limits r
  refine ⟨ofSettings_plain, rfl, rfl, ⟨rfl, by decide⟩, by decide +kernel, ?_⟩
  rintro ⟨segment, h⟩
  have hlength := congrArg List.length h
  simp only [List.length_append] at hlength
  have hname : "/submissions".toList.length = 12 := by decide
  have hpath : "/api/forms/a".toList.length = 12 := by decide
  have hstart : "/api/forms/".toList.length = 11 := by decide
  omega

end App

end Winnow
