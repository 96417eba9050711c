import ControlSurface.Proofs.Service.Generation

/-!
# Uploads

A file that is uploaded is answered as if the description in it had come in a request of its own,
whatever pieces it arrives in. Its name, its size, its text and its description are judged in that
order, and each of them has a refusal of its own.
-/

namespace ControlSurface.Service

open Schema

variable {name : Option String} {b received : ByteArray} {content : List ByteArray} {v d : Value}

/-! ### Pieces -/

/-- Whether pieces make up a file. None of them is empty or larger than what is taken at a time. -/
structure IsCut (content : List ByteArray) (b : ByteArray) : Prop where
  size : ∀ piece ∈ content, 0 < piece.size ∧ piece.size ≤ pieceSize
  join : content.foldl (· ++ ·) ByteArray.empty = b

lemma size_le_foldl (received : ByteArray) (content : List ByteArray) :
    received.size ≤ (content.foldl (· ++ ·) received).size := by
  induction content generalizing received with
  | nil => exact le_rfl
  | cons piece rest ih =>
    have hrest := ih (received ++ piece)
    rw [ByteArray.size_append] at hrest
    exact (Nat.le_add_right _ _).trans hrest

/-- Only the size of the whole file tells whether it is received. -/
lemma receive_eq (hcontent : ∀ piece ∈ content, 0 < piece.size)
    (hreceived : received.size ≤ uploadLimit) : receive received content =
      if uploadLimit < (content.foldl (· ++ ·) received).size then .error (.refused .fileTooLarge)
      else .ok (content.foldl (· ++ ·) received) := by
  -- Pieces only add to the size, so once the limit is passed the whole file is beyond it too.
  induction content generalizing received with
  | nil => rw [receive, List.foldl_nil, if_neg hreceived.not_gt]
  | cons piece rest ih =>
    obtain ⟨hpiece, hrest⟩ := List.forall_mem_cons.1 hcontent
    have hnonempty : ¬piece.isEmpty := by
      rw [ByteArray.isEmpty, beq_iff_eq]
      exact hpiece.ne'
    rw [receive, if_neg hnonempty, List.foldl_cons]
    by_cases hpart : uploadLimit < received.size + piece.size
    · have hgrown := size_le_foldl (received ++ piece) rest
      rw [ByteArray.size_append] at hgrown
      rw [if_pos hpart, if_pos (hpart.trans_le hgrown)]
    · rw [if_neg hpart]
      refine ih hrest ?_
      rw [ByteArray.size_append]
      exact not_lt.1 hpart

lemma foldl_pieces (b : ByteArray) (n : ℕ) :
    ((List.range n).map fun i => b.extract (i * pieceSize) ((i + 1) * pieceSize)).foldl (· ++ ·)
      ByteArray.empty = b.extract 0 (n * pieceSize) := by
  induction n with
  | zero => simp
  | succ n ih =>
    rw [List.range_succ, List.map_append, List.foldl_append, ih]
    have hstep : n * pieceSize ≤ (n + 1) * pieceSize := Nat.mul_le_mul_right _ (Nat.le_succ n)
    show b.extract 0 (n * pieceSize) ++ b.extract (n * pieceSize) ((n + 1) * pieceSize) = _
    rw [ByteArray.extract_append_extract, Nat.zero_min, max_eq_right hstep]

/-- Every file can be cut into pieces. -/
theorem isCut_pieces (b : ByteArray) : IsCut (pieces b) b where
  size piece hpiece := by
    obtain ⟨i, hi, rfl⟩ := List.mem_map.1 hpiece
    rw [List.mem_range, pieceSize] at hi
    rw [ByteArray.size_extract, pieceSize]
    omega
  join := by
    rw [pieces, foldl_pieces]
    have hcover : b.size ≤ (b.size + pieceSize - 1) / pieceSize * pieceSize := by
      rw [pieceSize]
      omega
    rw [← max_eq_left hcover, ByteArray.extract_zero_max_size]

/-! ### Contents -/

/-- Whether a file holds a description. -/
def Holds (b : ByteArray) (v : Value) : Prop :=
  ∃ text, String.fromUTF8? b = some text ∧ Description.read text = .ok v

/-- Whether a file is nested more deeply than can be read. -/
def IsTooNested (b : ByteArray) : Prop := ∃ text container,
  String.fromUTF8? b = some text ∧ Description.read text = .error (.notJson (.tooNested container))

lemma length_le_utf8ByteSize (l : List Char) : l.length ≤ (String.ofList l).utf8ByteSize := by
  induction l with
  | nil => exact Nat.zero_le _
  | cons c l ih =>
    have hpos := c.utf8Size_pos
    rw [List.length_cons, String.ofList_cons, String.utf8ByteSize_append,
      String.utf8ByteSize_singleton]
    omega

/-- A description is made of no more values than its file has bytes. -/
lemma size_le_of_holds (h : Holds b v) : v.size ≤ b.size := by
  obtain ⟨text, htext, hread⟩ := h
  have hbytes : text.utf8ByteSize = b.size := by
    unfold String.fromUTF8? at htext
    split_ifs at htext
    cases htext
    rfl
  have hchars := length_le_utf8ByteSize text.toList
  rw [String.ofList_toList, hbytes] at hchars
  exact (Description.size_le_of_read hread).trans hchars

lemma readUpload_of_holds (h : Holds b v) : readUpload b =
    (normalizeHardware v).mapError fun issues => .refused (.invalidFile issues) := by
  obtain ⟨text, htext, hread⟩ := h
  rw [readUpload, htext]
  dsimp only
  rw [hread]

lemma readUpload_of_not_holds (h : ∀ v, ¬Holds b v) (hnested : ¬IsTooNested b) :
    readUpload b = .error (.refused .unreadableFile) := by
  unfold readUpload
  cases htext : String.fromUTF8? b with
  | none => rfl
  | some text =>
    dsimp only
    split
    · next container hread => exact absurd ⟨text, container, htext, hread⟩ hnested
    · rfl
    · next description hread => exact absurd ⟨text, htext, hread⟩ (h description)

lemma holds_of_readUpload (h : readUpload b = .ok d) :
    ∃ v, Holds b v ∧ normalizeHardware v = .ok d := by
  unfold readUpload at h
  split at h
  · cases h
  next text htext =>
  split at h
  · cases h
  · cases h
  next description hread =>
  cases hd : normalizeHardware description with
  | error issues =>
    rw [hd] at h
    cases h
  | ok hardware =>
    rw [hd] at h
    cases h
    exact ⟨description, ⟨text, htext, hread⟩, hd⟩

/-! ### Names -/

/-- Whether a file is named as JSON is. -/
def IsJsonNamed (name : Option String) : Prop :=
  ∃ f, name = some f ∧ f ≠ "" ∧ ".json".toList <:+ f.toLower.toList

lemma toList_toLower (s : String) : s.toLower.toList = s.toList.map Char.toLower :=
  String.toList_map

lemma isJsonNamed_iff : IsJsonNamed name ↔ ∃ f, name = some f ∧ isJsonName f = true := by
  have hending (f : String) : isJsonName f = true ↔ ".json".toList <:+ f.toLower.toList := by
    rw [isJsonName, List.isPrefixOf_iff_prefix, List.reverse_prefix]
  constructor
  · rintro ⟨f, rfl, -, hf⟩
    exact ⟨f, rfl, (hending f).2 hf⟩
  · rintro ⟨f, rfl, hf⟩
    refine ⟨f, rfl, ?_, (hending f).1 hf⟩
    rintro rfl
    rw [hending, toList_toLower] at hf
    revert hf
    decide

/-! ### Answers -/

/-- The answer to a request of its own for the header of a description. -/
lemma read_hardware (v : Value) : HeaderRequest.read (.obj [("hardware", v)]) =
    ((normalizeHardware v).under (.key "hardware")).map fun d => ⟨d, Header.defaultName⟩ := by
  show (Checked.both ((normalizeHardware v).under (.key "hardware")) (.ok Header.defaultName)).map
    (fun p => (⟨p.1, p.2⟩ : HeaderRequest)) = _
  cases normalizeHardware v <;> rfl

lemma upload_of_not_named (h : ¬IsJsonNamed name) :
    upload name content = .error (.refused .notJsonFile) := by
  rw [isJsonNamed_iff] at h
  cases name with
  | none => rfl
  | some f =>
    have hf : ¬isJsonName f = true := fun hf => h ⟨f, rfl, hf⟩
    rw [upload, if_neg hf]
    rfl

lemma upload_of_named (h : IsJsonNamed name) (hcut : IsCut content b) : upload name content =
    if uploadLimit < b.size then .error (.refused .fileTooLarge)
    else (do generate ⟨← readUpload b, Header.defaultName⟩) := by
  obtain ⟨f, rfl, hf⟩ := isJsonNamed_iff.1 h
  have hempty : ByteArray.empty.size ≤ uploadLimit := Nat.zero_le _
  have hreceive := receive_eq (fun piece hpiece => (hcut.size piece hpiece).1) hempty
  rw [hcut.join] at hreceive
  rw [upload, if_pos hf, hreceive]
  split_ifs <;> rfl

/-- What becomes of a file of which the size is right. -/
lemma upload_of_size_le (h : IsJsonNamed name) (hsize : b.size ≤ uploadLimit)
    (hcut : IsCut content b) : upload name content =
      (do generate ⟨← readUpload b, Header.defaultName⟩) := by
  rw [upload_of_named h hcut, if_neg hsize.not_gt]

/-- A file has by far too few bytes for a label to be bound so often that it cannot be told. -/
lemma exists_generate_eq_ok (hsize : b.size ≤ uploadLimit) (hholds : Holds b v)
    (hd : normalizeHardware v = .ok d) (structName : String) :
    ∃ answer, generate ⟨d, structName⟩ = .ok answer := by
  have hdescription := isDescription_of_normalize hd
  have hlimit : uploadLimit < Notes.leastBeyond 7 := by decide
  have hbound : v.size < Notes.countBound :=
    Notes.lt_countBound (by decide : 7 ≤ 4300)
      (((size_le_of_holds hholds).trans hsize).trans_lt hlimit)
  exact ⟨_, generate_eq_ok (Header.source_eq hdescription structName)
    (Description.counts_eq hdescription)
    (Notes.ofDescription_eq_ok hdescription (Notes.count_lt_countBound hd hbound))⟩

/-- Whether a request is refused with a status code and with what is told about it. -/
def IsRefused {α : Type} (outcome : Except Failure α) (status : ℕ)
    (detail : String ⊕ List Issue) : Prop :=
  ∃ refusal : Refusal,
    outcome = .error (.refused refusal) ∧ refusal.status = status ∧ refusal.detail = detail

/-- What an upload comes to, told from the name and the bytes of its file. The name is judged before
the size, the size before the content, and a description that the content holds as in a request of
its own. -/
structure Answers (name : Option String) (b : ByteArray) (outcome : Except Failure Generated) :
    Prop where
  ok_iff : (∃ answer, outcome = .ok answer) ↔ IsJsonNamed name ∧ b.size ≤ uploadLimit ∧
    ∃ v, Holds b v ∧ ∃ d, normalizeHardware v = .ok d
  misnamed : ¬IsJsonNamed name → IsRefused outcome 400 (.inl "Only JSON files are accepted.")
  tooLarge : IsJsonNamed name → uploadLimit < b.size →
    IsRefused outcome 413 (.inl "File too large. Maximum 1MB.")
  unreadable : IsJsonNamed name → b.size ≤ uploadLimit → (∀ v, ¬Holds b v) → ¬IsTooNested b →
    IsRefused outcome 400 (.inl "Invalid hardware description. Expected a JSON object.")
  invalid : IsJsonNamed name → b.size ≤ uploadLimit → ∀ v, Holds b v →
    ∀ issues, normalizeHardware v = .error issues →
      HeaderRequest.read (.obj [("hardware", v)]) =
        .error (issues.map (Issue.under (.key "hardware"))) ∧ IsRefused outcome 422 (.inr issues)
  valid : IsJsonNamed name → b.size ≤ uploadLimit → ∀ v, Holds b v →
    ∀ d, normalizeHardware v = .ok d → ∃ request answer,
      HeaderRequest.read (.obj [("hardware", v)]) = .ok request ∧
        generate request = .ok answer ∧ outcome = .ok answer
  settled : ¬IsTooNested b → (∃ answer, outcome = .ok answer) ∨
    ∃ status ∈ [400, 413, 422], ∃ detail, IsRefused outcome status detail

/-- Only descriptions that fit the schema find an answer. -/
lemma accepted_of_upload (hcut : IsCut content b) {answer : Generated}
    (h : upload name content = .ok answer) : IsJsonNamed name ∧ b.size ≤ uploadLimit ∧
      ∃ v, Holds b v ∧ ∃ d, normalizeHardware v = .ok d := by
  have hname : IsJsonNamed name := by
    by_contra hname
    rw [upload_of_not_named hname] at h
    cases h
  have hsize : b.size ≤ uploadLimit := by
    by_contra hsize
    rw [upload_of_named hname hcut, if_pos (not_le.1 hsize)] at h
    cases h
  refine ⟨hname, hsize, ?_⟩
  rw [upload_of_size_le hname hsize hcut] at h
  cases hread : readUpload b with
  | error failure =>
    rw [hread] at h
    cases h
  | ok d =>
    obtain ⟨v, hholds, hd⟩ := holds_of_readUpload hread
    exact ⟨v, hholds, d, hd⟩

section Cut

variable (hname : IsJsonNamed name) (hsize : b.size ≤ uploadLimit) (hcut : IsCut content b)
include hname hsize hcut

lemma upload_of_normalize (hholds : Holds b v) (hd : normalizeHardware v = .ok d) :
    ∃ request answer, HeaderRequest.read (.obj [("hardware", v)]) = .ok request ∧
      generate request = .ok answer ∧ upload name content = .ok answer := by
  obtain ⟨answer, hanswer⟩ := exists_generate_eq_ok hsize hholds hd Header.defaultName
  refine ⟨_, answer, ?_, hanswer, ?_⟩
  · rw [read_hardware, hd]
    rfl
  · rw [upload_of_size_le hname hsize hcut, readUpload_of_holds hholds, hd]
    exact hanswer

lemma upload_of_issues (hholds : Holds b v) {issues : List Issue}
    (hissues : normalizeHardware v = .error issues) :
    upload name content = .error (.refused (.invalidFile issues)) := by
  rw [upload_of_size_le hname hsize hcut, readUpload_of_holds hholds, hissues]
  rfl

lemma upload_of_not_holds (hholds : ∀ v, ¬Holds b v) (hnested : ¬IsTooNested b) :
    upload name content = .error (.refused .unreadableFile) := by
  rw [upload_of_size_le hname hsize hcut, readUpload_of_not_holds hholds hnested]
  rfl

end Cut

/-- Nothing but an answer and three refusals is possible, other than for nesting. -/
lemma settled_of_isCut (hcut : IsCut content b) (hnested : ¬IsTooNested b) :
    (∃ answer, upload name content = .ok answer) ∨
      ∃ status ∈ [400, 413, 422], ∃ detail, IsRefused (upload name content) status detail := by
  have hrefused {refusal : Refusal} (h : upload name content = .error (.refused refusal))
      (hstatus : refusal.status ∈ [400, 413, 422]) :
      ∃ status ∈ [400, 413, 422], ∃ detail, IsRefused (upload name content) status detail :=
    ⟨_, hstatus, _, refusal, h, rfl, rfl⟩
  by_cases hname : IsJsonNamed name
  swap
  · exact .inr (hrefused (upload_of_not_named hname) (by decide))
  rcases lt_or_ge uploadLimit b.size with hlarge | hsize
  · exact .inr (hrefused ((upload_of_named hname hcut).trans (if_pos hlarge)) (by decide))
  by_cases hholds : ∃ v, Holds b v
  swap
  · have hunreadable := upload_of_not_holds hname hsize hcut (not_exists.1 hholds) hnested
    exact .inr (hrefused hunreadable (by decide))
  obtain ⟨v, hv⟩ := hholds
  cases hd : normalizeHardware v with
  | error issues =>
    exact .inr (hrefused (upload_of_issues hname hsize hcut hv hd) (by simp [Refusal.status]))
  | ok d =>
    obtain ⟨_, answer, -, -, hok⟩ := upload_of_normalize hname hsize hcut hv hd
    exact .inl ⟨answer, hok⟩

lemma answers_of_isCut (hcut : IsCut content b) : Answers name b (upload name content) where
  ok_iff := by
    refine ⟨fun ⟨_, hok⟩ => accepted_of_upload hcut hok, ?_⟩
    rintro ⟨hname, hsize, v, hholds, d, hd⟩
    obtain ⟨_, answer, -, -, hok⟩ := upload_of_normalize hname hsize hcut hholds hd
    exact ⟨answer, hok⟩
  misnamed hname := ⟨_, upload_of_not_named hname, rfl, rfl⟩
  tooLarge hname hsize := ⟨_, (upload_of_named hname hcut).trans (if_pos hsize), rfl, rfl⟩
  unreadable hname hsize hholds hnested :=
    ⟨_, upload_of_not_holds hname hsize hcut hholds hnested, rfl, rfl⟩
  invalid hname hsize v hholds issues hissues := by
    refine ⟨?_, _, upload_of_issues hname hsize hcut hholds hissues, rfl, rfl⟩
    rw [read_hardware, hissues]
    rfl
  valid hname hsize v hholds d hd := upload_of_normalize hname hsize hcut hholds hd
  settled := settled_of_isCut hcut

/-- Pieces of one file come to the same. -/
lemma upload_congr {content' : List ByteArray} (hcut : IsCut content b)
    (hcut' : IsCut content' b) : upload name content = upload name content' := by
  by_cases hname : IsJsonNamed name
  · rw [upload_of_named hname hcut, upload_of_named hname hcut']
  · rw [upload_of_not_named hname, upload_of_not_named hname]

/-- However a file is cut into pieces, it is answered like the description that it holds. -/
theorem upload_answers (hcut : IsCut content b) :
    Answers name b (upload name content) ∧ upload name content = upload name (pieces b) :=
  ⟨answers_of_isCut hcut, upload_congr hcut (isCut_pieces b)⟩

/-- A light with a label of one letter, which takes two bytes. -/
def lightText : String := "\x7b\"leds\":[\x7b\"labels\":[\"é\"],\"pin\":7\x7d]\x7d"

/-- What the text holds. -/
def lightPanel : Value :=
  .obj [("leds", .arr [.obj [("labels", .arr [.str "é"]), ("pin", .int 7)]])]

/-- The bytes of the text, cut within a key and between the two bytes of the letter. -/
def lightPieces : List ByteArray := [
  "\x7b\"le".toUTF8,
  "ds\":[\x7b\"labels\":[\"".toUTF8 ++ ⟨#[195]⟩,
  ⟨#[169]⟩ ++ "\"],\"pin\":7\x7d]\x7d".toUTF8]

/-- The header for the light. -/
def lightLines : List String := [
  "// File was generated, do not edit!",
  "#pragma once",
  "",
  "#include \"daisy_seed.h\"",
  "",
  "using namespace daisy;",
  "",
  "typedef struct \x7b",
  "    DaisySeed seed;",
  "",
  "    // leds declaration",
  "    Led leds[1];",
  "    Led& é = leds[0];",
  "",
  "    void Init(bool boost)",
  "    \x7b",
  "        seed.Configure();",
  "        seed.Init(boost);",
  "",
  "        // BEGIN - leds initialization",
  "        leds[0].Init(seed.GetPin(7), false);",
  "        // END - leds initialization",
  "    \x7d",
  "",
  "    void ProcessAnalogControls()",
  "    \x7b",
  "    \x7d",
  "",
  "    void ProcessDigitalControls()",
  "    \x7b",
  "    \x7d",
  "",
  "    inline void ProcessAllControls()",
  "    \x7b",
  "        ProcessAnalogControls();",
  "        ProcessDigitalControls();",
  "    \x7d",
  "",
  "    void UpdateLeds()",
  "    \x7b",
  "        // process leds",
  "        leds[0].Update();",
  "    \x7d",
  "",
  "\x7d Daisy;"]

/-- The answer about the light. -/
def lightAnswer : Generated where
  source := "\n".intercalate (lightLines ++ [""])
  counts := [("analog_controls", 0), ("cv_inputs", 0), ("cv_outputs", 0), ("encoders", 0),
    ("gate_inputs", 0), ("gate_outputs", 0), ("leds", 1), ("midi_handlers", 0),
    ("oled_displays", 0), ("rgb_leds", 0), ("switches", 0)]
  notes := []

/-- It is what both ways of cutting the file come to. -/
theorem upload_answers_pieces :
    (IsCut lightPieces lightText.toUTF8 ∧ IsJsonNamed (some "panel.JSON")) ∧
      Answers (some "panel.JSON") lightText.toUTF8 (upload (some "panel.JSON") lightPieces) ∧
      upload (some "panel.JSON") lightPieces = .ok lightAnswer ∧
      upload (some "panel.JSON") (pieces lightText.toUTF8) = .ok lightAnswer := by
  have hcut : IsCut lightPieces lightText.toUTF8 := ⟨by decide +kernel, by decide +kernel⟩
  have hname : IsJsonNamed (some "panel.JSON") := by
    refine ⟨_, rfl, by decide, ?_⟩
    rw [toList_toLower]
    decide
  have hsize : lightText.toUTF8.size ≤ uploadLimit := by decide +kernel
  have hholds : Holds lightText.toUTF8 lightPanel :=
    ⟨lightText, by decide +kernel, by with_unfolding_all rfl⟩
  have hd : normalizeHardware lightPanel = .ok lightPanel := rfl
  have hlines : Header.linesOf lightPanel Header.defaultName = lightLines := by decide +kernel
  have hsource : Header.source lightPanel Header.defaultName = .ok lightAnswer.source := by
    rw [Header.source_eq (isDescription_of_normalize hd), hlines, lightAnswer]
  have hgenerate : generate ⟨lightPanel, Header.defaultName⟩ = .ok lightAnswer :=
    generate_eq_ok hsource (by decide +kernel) (by decide +kernel)
  obtain ⟨hanswers, hpieces⟩ : Answers (some "panel.JSON") lightText.toUTF8
      (upload (some "panel.JSON") lightPieces) ∧ upload (some "panel.JSON") lightPieces =
        upload (some "panel.JSON") (pieces lightText.toUTF8) := upload_answers hcut
  obtain ⟨request, answer, hrequest, hanswer, hupload⟩ :=
    hanswers.valid hname hsize lightPanel hholds lightPanel hd
  rw [← Except.ok.inj hrequest] at hanswer
  obtain rfl : lightAnswer = answer := Except.ok.inj (hgenerate.symm.trans hanswer)
  exact ⟨⟨hcut, hname⟩, hanswers, hupload, hpieces ▸ hupload⟩

end ControlSurface.Service
