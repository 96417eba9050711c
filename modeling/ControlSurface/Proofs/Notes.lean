import ControlSurface.Proofs.Generator.Declaration
import ControlSurface.Proofs.Members
import ControlSurface.Proofs.Tally
import Mathlib.Algebra.Group.Nat.Defs

/-!
# What the notes tell

The notes about a normalized description tell of each label that is bound more than once or named
like a member of the struct, of CV outputs that are dropped, and of nothing else. So there is no
note about a label if and only if no two members of the struct have the same name, labels included.
-/

namespace ControlSurface

open Schema

namespace Notes

/-! ### Wording -/

/-- The note about dropped CV outputs. -/
def droppedNote (listed dropped : ℕ) : String :=
  s!"{listed} cv_outputs listed but only {dacChannels} DAC channels are available; " ++
    s!"the extra {dropped} are ignored."

/-- How all notes about labels end. -/
def labelNoteEnd : String := " (duplicate struct members)."

lemma reuseNote_eq (label : String) : reuseNote label =
    "Label '" ++ label ++ "' reuses the name of a generated member" ++ labelNoteEnd := by
  have hend : "' reuses the name of a generated member (duplicate struct members)." =
      "' reuses the name of a generated member" ++ labelNoteEnd := by decide
  rw [String.append_assoc, ← hend]
  rfl

lemma duplicateNote_eq (label count : String) : duplicateNote label count =
    "Label '" ++ label ++ "' is bound " ++ count ++ " times" ++ labelNoteEnd := by
  have hend : " times (duplicate struct members)." = " times" ++ labelNoteEnd := by decide
  rw [String.append_assoc, ← hend]
  rfl

lemma droppedNote_eq (listed dropped : ℕ) : droppedNote listed dropped = toString listed ++
    (" cv_outputs listed but only 2 DAC channels are available; the extra " ++
      (toString dropped ++ " are ignored.")) := by
  have hmiddle : " cv_outputs listed but only 2 DAC channels are available; the extra " =
      " cv_outputs listed but only " ++ (toString dacChannels ++
        (" DAC channels are available; " ++ "the extra ")) := by decide
  rw [hmiddle]
  simp only [droppedNote, String.append_assoc]
  rfl

lemma reuseNote_injective : Function.Injective reuseNote := by
  intro l l' h
  have hlist := congrArg String.toList h
  simp only [reuseNote_eq, String.toList_append] at hlist
  exact String.toList_injective (List.append_cancel_left
    (List.append_cancel_right (List.append_cancel_right hlist)))

lemma duplicateNote_inj {l l' : String} {k k' : ℕ}
    (h : duplicateNote l (toString k) = duplicateNote l' (toString k')) : l = l' ∧ k = k' := by
  have hlist := congrArg String.toList h
  simp only [duplicateNote_eq, String.toList_append] at hlist
  have hbehind (s : List Char) : Text.NoDigitBehind (s ++ "' is bound ".toList) := by
    intro c hc
    have hlast : (s ++ "' is bound ".toList).getLast? = some ' ' := by
      rw [List.getLast?_append]
      rfl
    obtain rfl := Option.some_inj.1 (hlast.symm.trans hc)
    rfl
  obtain ⟨hlabel, hcount⟩ := Text.append_number_inj (hbehind _) (hbehind _)
    (List.append_cancel_right (List.append_cancel_right hlist))
  have hlist' := List.append_cancel_left (List.append_cancel_right hlabel)
  exact ⟨String.toList_injective hlist', hcount⟩

lemma droppedNote_inj {m m' n n' : ℕ} (h : droppedNote m n = droppedNote m' n') :
    m = m' ∧ n = n' := by
  have hlist := congrArg String.toList h
  simp only [droppedNote_eq, String.toList_append] at hlist
  have hahead (s : List Char) : Text.NoDigitAhead
      (" cv_outputs listed but only 2 DAC channels are available; the extra ".toList ++ s) := by
    intro c hc
    obtain rfl : ' ' = c := Option.some_inj.1 hc
    rfl
  have hahead' : Text.NoDigitAhead " are ignored.".toList := by
    intro c hc
    obtain rfl : ' ' = c := Option.some_inj.1 hc
    rfl
  obtain ⟨hlisted, hrest⟩ := Text.number_append_inj (hahead _) (hahead _) hlist
  obtain ⟨hdropped, -⟩ := Text.number_append_inj hahead' hahead' (List.append_cancel_left hrest)
  exact ⟨hlisted, hdropped⟩

lemma reuseNote_ne_duplicateNote (l l' count : String) : reuseNote l ≠ duplicateNote l' count := by
  intro h
  have hlist := congrArg String.toList h
  simp only [reuseNote_eq, duplicateNote_eq, String.toList_append] at hlist
  have hlast := congrArg List.getLast? (List.append_cancel_right hlist)
  have hmember : "' reuses the name of a generated member".toList.getLast? = some 'r' := by
    decide
  have htimes : " times".toList.getLast? = some 's' := by decide
  simp only [List.getLast?_append, hmember, htimes, Option.some_or] at hlast
  exact absurd (Option.some_inj.1 hlast) (by decide)

lemma head?_droppedNote (m n : ℕ) : ∃ c, (droppedNote m n).toList.head? = some c ∧ c.isDigit := by
  have hne : (toString m).toList ≠ [] := by
    rw [Nat.toString_eq_repr, ← String.toList_empty]
    exact fun h => Nat.repr_ne_empty (String.toList_injective h)
  obtain ⟨c, rest, hc⟩ := List.exists_cons_of_ne_nil hne
  refine ⟨c, ?_, Text.isDigit_of_mem_toString (hc ▸ List.mem_cons_self ..)⟩
  rw [droppedNote_eq, String.toList_append, hc]
  rfl

lemma ne_droppedNote {note : String} (h : note.toList.head? = some 'L') (m n : ℕ) :
    note ≠ droppedNote m n := by
  rintro rfl
  obtain ⟨c, hc, hdigit⟩ := head?_droppedNote m n
  obtain rfl : 'L' = c := Option.some_inj.1 (h.symm.trans hc)
  exact absurd hdigit (by decide)

lemma reuseNote_ne_droppedNote (label : String) (m n : ℕ) : reuseNote label ≠ droppedNote m n := by
  apply ne_droppedNote
  simp only [reuseNote_eq, String.toList_append]
  rfl

lemma duplicateNote_ne_droppedNote (label count : String) (m n : ℕ) :
    duplicateNote label count ≠ droppedNote m n := by
  apply ne_droppedNote
  simp only [duplicateNote_eq, String.toList_append]
  rfl

/-! ### The notes -/

/-- The notes about a label. -/
def notesAbout (members labels : List String) (label : String) : List String :=
  (if label ∈ members then [reuseNote label] else []) ++
    if 1 < labels.count label then [duplicateNote label (toString (labels.count label))] else []

/-- What the declaration of a kind binds: only banks bind labels. -/
def boundBy (d : Value) (k : Kind) : List (String × ℕ) :=
  if k.bank?.isSome then Label.aliases (Description.slots d k) else []

/-- The labels of a description in the order in which the struct binds them. -/
def boundLabels (d : Value) : List String :=
  Kind.all.flatMap fun k => (boundBy d k).map Prod.fst

lemma boundLabels_eq (d : Value) : boundLabels d =
    labelKeys.flatMap fun key => (Description.listed d key).flatMap Label.namesOf := by
  simp [boundLabels, boundBy, Label.map_fst_aliases, Kind.all, Kind.bank?, Description.slots,
    Kind.keys, labelKeys]

lemma exists_isListedAs_of_mem_labelKeys {key : String} (h : key ∈ labelKeys) :
    ∃ record, Description.IsListedAs key record := by
  have hkinds : ∀ key ∈ labelKeys, ∃ k ∈ Kind.all, key ∈ k.keys := by decide
  obtain ⟨k, -, hk⟩ := hkinds key h
  exact Description.exists_isListedAs hk

theorem tally_eq {d : Value} (hd : IsDescription d) :
    tally d = .ok (Tally.ofLabels (boundLabels d)) := by
  have hnil : ([] : Tally) = Tally.ofLabels [] := rfl
  rw [boundLabels_eq, tally, hnil, ← List.nil_append (List.flatMap _ _)]
  refine foldlM_eq_ok (s := Tally.ofLabels) (fun key hkey done => ?_) []
  obtain ⟨record, hrecord⟩ := exists_isListedAs_of_mem_labelKeys hkey
  rw [Description.entriesUnder_eq hd hrecord]
  exact foldlM_eq_ok (s := Tally.ofLabels)
    (fun e he done => Tally.countLabels_eq (Label.isLabelled_of_mem hd hrecord he) done) done

/-- The least number that has more than some digits. -/
def leastBeyond (digits : ℕ) : ℕ := Nat.pow 10 digits

lemma lt_length_toString_iff {digits : ℕ} (hdigits : 0 < digits) (n : ℕ) :
    digits < (toString n).length ↔ leastBeyond digits ≤ n := by
  rw [leastBeyond, Nat.pow_eq, Nat.toString_eq_repr, ← not_le, Nat.length_repr_le_iff hdigits,
    not_lt]

lemma leastBeyond_le {digits more : ℕ} (h : digits ≤ more) :
    leastBeyond digits ≤ leastBeyond more := by
  rw [leastBeyond, leastBeyond, Nat.pow_eq, Nat.pow_eq]
  exact Nat.pow_le_pow_right (by decide) h

/-- The least count that has too many digits. -/
def countBound : ℕ := leastBeyond 4300

/-- Numbers of few digits are below it. -/
lemma lt_countBound {n digits : ℕ} (hdigits : digits ≤ 4300) (h : n < leastBeyond digits) :
    n < countBound :=
  h.trans_le (leastBeyond_le hdigits)

lemma one_lt_countBound : 1 < countBound := lt_countBound (by decide : 1 ≤ 4300) (by decide)

lemma countText_natCast (n : ℕ) : (Value.int n).countText =
    if countBound ≤ n then .error .integerTooLong else .ok (toString n) := by
  have hdigits : 4300 < (toString n).length ↔ countBound ≤ n :=
    lt_length_toString_iff (by decide) n
  rw [Value.countText, Int.natAbs_natCast]
  simp only [hdigits]
  rfl

/-- The notes about a label can be made unless its count has too many digits. -/
lemma labelNotes_eq (members labels : List String) (label : String) :
    labelNotes members (Tally.tallied (fun label => labels.count label) label) =
      if countBound ≤ labels.count label then .error .integerTooLong
      else .ok (notesAbout members labels label) := by
  have hexceeds : (Value.int (labels.count label)).exceedsOne =
      .ok (decide (1 < labels.count label)) := by
    rw [Value.exceedsOne]
    congr 2
    exact propext (by exact_mod_cast Iff.rfl)
  rw [labelNotes, Tally.tallied]
  dsimp only
  rw [hexceeds, countText_natCast]
  by_cases hbound : countBound ≤ labels.count label
  · have hmany : 1 < labels.count label := one_lt_countBound.trans_le hbound
    simp [hbound, hmany, bind, Except.bind]
  · by_cases hmany : 1 < labels.count label
    · simp [hbound, hmany, bind, Except.bind, pure, Except.pure, notesAbout, isNamed, Value.text]
    · simp [hbound, hmany, bind, Except.bind, pure, Except.pure, notesAbout, isNamed, Value.text]

/-- The notes about a description that binds some labels, and of whose CV outputs some are kept. -/
def allNotes (members labels : List String) (listed : ℕ) : List String :=
  cvOutputNotes listed ++ labels.eraseDups.flatMap (notesAbout members labels)

variable {d : Value}

lemma mapM_eq_error {ε α β : Type} {f : α → Except ε β} {e : ε} {l : List α} {g : α → β}
    (hall : ∀ a ∈ l, f a = .error e ∨ f a = .ok (g a)) (hbad : ∃ a ∈ l, f a = .error e) :
    l.mapM f = .error e := by
  induction l with
  | nil => simp at hbad
  | cons a l ih =>
    obtain ⟨ha, hl⟩ := List.forall_mem_cons.1 hall
    rw [List.mapM_cons]
    rcases ha with ha | ha
    · rw [ha]
      rfl
    · have hrest : ∃ a ∈ l, f a = .error e := by
        obtain ⟨a', hmem, ha'⟩ := hbad
        rcases List.mem_cons.1 hmem with rfl | hmem
        · rw [ha] at ha'
          cases ha'
        · exact ⟨a', hmem, ha'⟩
      rw [ha, ih hl hrest]
      rfl

lemma length_cvOutputs (hd : IsDescription d) :
    ∃ w, d.get "cv_outputs" = .ok w ∧
      (w.orElse (.arr [])).length = .ok (Description.listed d "cv_outputs").length :=
  let ⟨_, hrecord⟩ := Description.exists_isListedAs (k := .cvOutput) (List.mem_singleton_self _)
  Description.length_get_eq hd hrecord

/-- All notes are there if those about every label can be made. -/
lemma ofDescription_eq (hd : IsDescription d) : ofDescription d = (do
    let notes ← (boundLabels d).eraseDups.mapM fun label =>
      labelNotes (Header.memberNames d)
        (Tally.tallied (fun label => (boundLabels d).count label) label)
    return cvOutputNotes (Description.listed d "cv_outputs").length ++ notes.flatten) := by
  obtain ⟨w, hget, hlength⟩ := length_cvOutputs hd
  rw [ofDescription, hget]
  dsimp only [bind, Except.bind]
  rw [hlength, Header.members_eq hd, tally_eq hd]
  dsimp only
  rw [Tally.ofLabels, List.mapM_map]
  rfl

/-- The notes about a normalized description. -/
theorem ofDescription_eq_ok (hd : IsDescription d)
    (hcount : ∀ label, (boundLabels d).count label < countBound) :
    ofDescription d = .ok (allNotes (Header.memberNames d) (boundLabels d)
      (Description.listed d "cv_outputs").length) := by
  rw [ofDescription_eq hd, mapM_eq_ok fun label _ => (labelNotes_eq _ _ label).trans
    (if_neg (hcount label).not_ge)]
  rfl

/-- Only if a count has more digits than any number may have, there are none. -/
theorem ofDescription_eq_error (hd : IsDescription d) {label : String}
    (hcount : countBound ≤ (boundLabels d).count label) :
    ofDescription d = .error .integerTooLong := by
  have hmem : label ∈ boundLabels d := by
    rw [← List.count_pos_iff]
    exact (Nat.zero_lt_one.trans one_lt_countBound).trans_le hcount
  have hnotes := fun label => labelNotes_eq (Header.memberNames d) (boundLabels d) label
  rw [ofDescription_eq hd, mapM_eq_error (g := notesAbout (Header.memberNames d) (boundLabels d))
    (e := .integerTooLong)]
  · rfl
  · intro l _
    rw [hnotes]
    split
    · exact .inl rfl
    · exact .inr rfl
  · exact ⟨label, List.mem_eraseDups.2 hmem, by rw [hnotes, if_pos hcount]⟩

/-! ### What they tell -/

section Telling

variable {members labels : List String} {listed : ℕ}

lemma mem_notesAbout {note label : String} : note ∈ notesAbout members labels label ↔
    (label ∈ members ∧ note = reuseNote label) ∨
      (1 < labels.count label ∧ note = duplicateNote label (toString (labels.count label))) := by
  rw [notesAbout, List.mem_append]
  split_ifs with hmember hmany hmany <;> simp [hmember, hmany]

lemma mem_allNotes {note : String} : note ∈ allNotes members labels listed ↔
    note ∈ cvOutputNotes listed ∨
      ∃ label ∈ labels, (label ∈ members ∧ note = reuseNote label) ∨
        (1 < labels.count label ∧
          note = duplicateNote label (toString (labels.count label))) := by
  simp only [allNotes, List.mem_append, List.mem_flatMap, List.mem_eraseDups, mem_notesAbout]

lemma cvOutputNotes_eq (listed : ℕ) : cvOutputNotes listed =
    if dacChannels < listed then [droppedNote listed (listed - dacChannels)] else [] := rfl

lemma mem_cvOutputNotes {note : String} : note ∈ cvOutputNotes listed ↔
    dacChannels < listed ∧ note = droppedNote listed (listed - dacChannels) := by
  rw [cvOutputNotes_eq]
  split_ifs with h <;> simp [h]

lemma duplicateNote_mem_allNotes {label : String} {k : ℕ} :
    duplicateNote label (toString k) ∈ allNotes members labels listed ↔
      k = labels.count label ∧ 1 < k := by
  rw [mem_allNotes, mem_cvOutputNotes]
  constructor
  · rintro (⟨-, h⟩ | ⟨l, -, ⟨-, h⟩ | ⟨hmany, h⟩⟩)
    · exact absurd h (duplicateNote_ne_droppedNote _ _ _ _)
    · exact absurd h.symm (reuseNote_ne_duplicateNote _ _ _)
    · obtain ⟨rfl, rfl⟩ := duplicateNote_inj h
      exact ⟨rfl, hmany⟩
  · rintro ⟨rfl, hmany⟩
    have hmem : label ∈ labels := List.count_pos_iff.1 (Nat.zero_lt_one.trans hmany)
    exact .inr ⟨label, hmem, .inr ⟨hmany, rfl⟩⟩

lemma reuseNote_mem_allNotes {label : String} :
    reuseNote label ∈ allNotes members labels listed ↔
      0 < labels.count label ∧ label ∈ members := by
  rw [mem_allNotes, mem_cvOutputNotes, List.count_pos_iff]
  constructor
  · rintro (⟨-, h⟩ | ⟨l, hl, ⟨hmember, h⟩ | ⟨-, h⟩⟩)
    · exact absurd h (reuseNote_ne_droppedNote _ _ _)
    · obtain rfl := reuseNote_injective h
      exact ⟨hl, hmember⟩
    · exact absurd h (reuseNote_ne_duplicateNote _ _ _)
  · rintro ⟨hmem, hmember⟩
    exact .inr ⟨label, hmem, .inl ⟨hmember, rfl⟩⟩

lemma droppedNote_mem_allNotes {m n : ℕ} : droppedNote m n ∈ allNotes members labels listed ↔
    dacChannels < listed ∧ m = listed ∧ n = listed - dacChannels := by
  rw [mem_allNotes, mem_cvOutputNotes]
  constructor
  · rintro (⟨hmore, h⟩ | ⟨_, -, ⟨-, h⟩ | ⟨-, h⟩⟩)
    · exact ⟨hmore, droppedNote_inj h⟩
    · exact absurd h.symm (reuseNote_ne_droppedNote _ _ _)
    · exact absurd h.symm (duplicateNote_ne_droppedNote _ _ _ _)
  · rintro ⟨hmore, rfl, rfl⟩
    exact .inl ⟨hmore, rfl⟩

lemma nodup_notesAbout (label : String) : (notesAbout members labels label).Nodup := by
  rw [notesAbout]
  split_ifs <;> simp [reuseNote_ne_duplicateNote]

lemma disjoint_notesAbout {l l' : String} (h : l ≠ l') :
    (notesAbout members labels l).Disjoint (notesAbout members labels l') := by
  intro note hl hl'
  rcases mem_notesAbout.1 hl with ⟨-, rfl⟩ | ⟨-, rfl⟩ <;>
    rcases mem_notesAbout.1 hl' with ⟨-, heq⟩ | ⟨-, heq⟩
  · exact h (reuseNote_injective heq)
  · exact reuseNote_ne_duplicateNote _ _ _ heq
  · exact reuseNote_ne_duplicateNote _ _ _ heq.symm
  · exact h (duplicateNote_inj heq).1

lemma nodup_allNotes : (allNotes members labels listed).Nodup := by
  refine List.nodup_append.2 ⟨?_, ?_, ?_⟩
  · rw [cvOutputNotes_eq]
    split_ifs <;> simp
  · refine List.nodup_flatMap.2 ⟨fun l _ => nodup_notesAbout l, ?_⟩
    exact (nodup_eraseDups labels).imp fun h => disjoint_notesAbout h
  · rintro note hcv _ hlabel rfl
    obtain ⟨-, rfl⟩ := mem_cvOutputNotes.1 hcv
    obtain ⟨l, -, hl⟩ := List.mem_flatMap.1 hlabel
    rcases mem_notesAbout.1 hl with ⟨-, h⟩ | ⟨-, h⟩
    · exact reuseNote_ne_droppedNote _ _ _ h.symm
    · exact duplicateNote_ne_droppedNote _ _ _ _ h.symm

/-- Whether no label that a note could be about is bound twice or named like a member. -/
lemma forall_notMem_allNotes_iff (hmembers : members.Nodup) :
    (∀ label, reuseNote label ∉ allNotes members labels listed ∧
      ∀ k : ℕ, duplicateNote label (toString k) ∉ allNotes members labels listed) ↔
        (members ++ labels).Nodup := by
  simp only [reuseNote_mem_allNotes, duplicateNote_mem_allNotes, List.count_pos_iff]
  constructor
  · intro h
    refine List.nodup_append.2 ⟨hmembers, ?_, ?_⟩
    · rw [List.nodup_iff_count_le_one]
      intro label
      exact not_lt.1 fun hmany => (h label).2 _ ⟨rfl, hmany⟩
    · rintro label hmember _ hlabel rfl
      exact (h label).1 ⟨hlabel, hmember⟩
  · intro h label
    obtain ⟨-, hlabels, hapart⟩ := List.nodup_append.1 h
    refine ⟨fun hboth => hapart label hboth.2 label hboth.1 rfl, ?_⟩
    rintro _ ⟨rfl, hmany⟩
    exact absurd (List.nodup_iff_count_le_one.1 hlabels label) (not_le.2 hmany)

/-- What notes tell about the members of a struct, the labels that it binds, and the number of CV
outputs that are listed and kept. -/
structure Tell (members labels : List String) (listed kept : ℕ) (notes : List String) : Prop where
  nodup : notes.Nodup
  duplicate : ∀ label (k : ℕ),
    duplicateNote label (toString k) ∈ notes ↔ k = labels.count label ∧ 1 < k
  reuse : ∀ label, reuseNote label ∈ notes ↔ 0 < labels.count label ∧ label ∈ members
  dropped : ∀ m n, droppedNote m n ∈ notes ↔ kept < listed ∧ m = listed ∧ n = listed - kept
  nothingElse : ∀ note ∈ notes, (∃ label, ∃ k : ℕ, note = duplicateNote label (toString k)) ∨
    (∃ label, note = reuseNote label) ∨ ∃ m n, note = droppedNote m n
  inOrder : notes = cvOutputNotes listed ++ labels.eraseDups.flatMap (notesAbout members labels)
  clear : (∀ label, reuseNote label ∉ notes ∧
    ∀ k : ℕ, duplicateNote label (toString k) ∉ notes) ↔ (members ++ labels).Nodup

lemma tell_allNotes (hmembers : members.Nodup) :
    Tell members labels listed (min dacChannels listed) (allNotes members labels listed) where
  nodup := nodup_allNotes
  duplicate _ _ := duplicateNote_mem_allNotes
  reuse _ := reuseNote_mem_allNotes
  dropped m n := by
    rw [droppedNote_mem_allNotes]
    rcases le_or_gt listed dacChannels with h | h
    · rw [min_eq_right h]
      simp [h.not_gt]
    · rw [min_eq_left h.le]
  nothingElse note hnote := by
    rcases mem_allNotes.1 hnote with hcv | ⟨label, -, ⟨-, h⟩ | ⟨-, h⟩⟩
    · exact .inr (.inr ⟨_, _, (mem_cvOutputNotes.1 hcv).2⟩)
    · exact .inr (.inl ⟨label, h⟩)
    · exact .inl ⟨label, _, h⟩
  inOrder := rfl
  clear := forall_notMem_allNotes_iff hmembers

end Telling

/-- Whether labels are those that the declarations of a description bind, in the order of the
struct. Only banks bind labels: those of each entry to its slot. -/
def Binds (d : Value) (labels : List String) : Prop :=
  ∃ (entries : Kind → List Value) (aliases : Kind → List (String × ℕ)),
    labels = Kind.all.flatMap (fun k => (aliases k).map Prod.fst) ∧
      ∀ k, Description.entriesOf d k = .ok (entries k) ∧
        match k.bank? with
        | none => aliases k = []
        | some b =>
          Label.bindings (.arr (entries k)) = .ok ((aliases k).map fun p => (.str p.1, p.2)) ∧
            k.fragmentLines .declaration (.arr (entries k)) =
              .ok ((if (entries k).isEmpty then [] else b.declarationHead (entries k).length) ++
                (aliases k).map b.aliasLine)

lemma binds_boundLabels (hd : IsDescription d) : Binds d (boundLabels d) := by
  refine ⟨Description.slots d, boundBy d, rfl, fun k => ⟨Description.entriesOf_eq hd k, ?_⟩⟩
  have hlabelled : ∀ e ∈ Description.slots d k, Label.IsLabelled e :=
    fun e he => Label.isLabelled_of_mem_slots hd he
  cases hb : k.bank? with
  | none => exact if_neg (by rw [hb]; exact Bool.false_ne_true)
  | some b =>
    have hbound : boundBy d k = Label.aliases (Description.slots d k) :=
      if_pos (by rw [hb]; rfl)
    dsimp only
    rw [hbound]
    refine ⟨Label.bindings_eq hlabelled, ?_⟩
    rw [Kind.fragmentLines_declaration (Kind.ne_oledDisplay_of_bank? hb)
      fun e he _ => hlabelled e he, Kind.declarationLines, hb]
    cases Description.slots d k <;> rfl

/-- A description binds one list of labels. -/
lemma Binds.unique {d : Value} {labels labels' : List String} (h : Binds d labels)
    (h' : Binds d labels') : labels = labels' := by
  obtain ⟨entries, aliases, rfl, hbound⟩ := h
  obtain ⟨entries', aliases', rfl, hbound'⟩ := h'
  have haliases (k : Kind) : aliases k = aliases' k := by
    obtain ⟨hentries, hk⟩ := hbound k
    obtain ⟨hentries', hk'⟩ := hbound' k
    rw [← Except.ok.inj (hentries.symm.trans hentries')] at hk'
    cases hb : k.bank? with
    | none =>
      rw [hb] at hk hk'
      exact hk.trans hk'.symm
    | some b =>
      rw [hb] at hk hk'
      refine List.map_injective_iff.2 ?_ (Except.ok.inj (hk.1.symm.trans hk'.1))
      rintro ⟨label, i⟩ ⟨label', i'⟩ heq
      cases heq
      rfl
  simp only [haliases]

/-- The notes about every description that has been checked are sound and complete. -/
theorem ofDescription_tells {v d : Value} (h : normalizeHardware v = .ok d) :
    ∃ members labels listed kept,
      Header.members d = .ok members ∧ Binds d labels ∧
      Description.entriesUnder d "cv_outputs" = .ok listed ∧
      Description.entriesOf d .cvOutput = .ok kept ∧
      ((∀ label, labels.count label < countBound) ∧
          (∃ notes, ofDescription d = .ok notes ∧
            Tell members labels listed.length kept.length notes) ∨
        (∃ label, countBound ≤ labels.count label) ∧
          ofDescription d = .error .integerTooLong) := by
  have hd := isDescription_of_normalize h
  obtain ⟨record, hrecord⟩ :=
    Description.exists_isListedAs (k := .cvOutput) (List.mem_singleton_self "cv_outputs")
  refine ⟨Header.memberNames d, boundLabels d, Description.listed d "cv_outputs",
    Description.slots d .cvOutput, Header.members_eq hd, binds_boundLabels hd,
    Description.entriesUnder_eq hd hrecord, Description.entriesOf_eq hd .cvOutput, ?_⟩
  have hkept : (Description.slots d .cvOutput).length =
      min dacChannels (Description.listed d "cv_outputs").length := by
    simp [Description.slots, Kind.keys]
  rw [hkept]
  by_cases hcount : ∀ label, (boundLabels d).count label < countBound
  · exact .inl ⟨hcount, _, ofDescription_eq_ok hd hcount,
      tell_allNotes (Header.nodup_memberNames d)⟩
  · obtain ⟨label, hlabel⟩ := not_forall.1 hcount
    exact .inr ⟨⟨label, not_lt.1 hlabel⟩, ofDescription_eq_error hd (not_lt.1 hlabel)⟩

/-- Labels that are bound several times, one that is named like a member, and a CV output too
many. -/
def crowdedPanel : Value := .obj [
  ("analog_controls", .arr [.obj [("labels", .arr [.str "a"])]]),
  ("cv_inputs", .arr [.obj [("labels", .arr [.str "b", .str "a"])]]),
  ("cv_outputs", .arr [.obj [], .obj [], .obj []]),
  ("leds", .arr [.obj [("labels", .arr [.str "Init", .str "b", .str "b"])]])]

/-- The members of its struct. -/
def crowdedNames : List String :=
  ["seed", "controls", "leds", "Init", "ProcessAnalogControls", "ProcessDigitalControls",
    "ProcessAllControls", "UpdateLeds"]

/-- The labels that its struct binds. -/
def crowdedLabels : List String := ["a", "b", "a", "Init", "b", "b"]

/-- The notes about it. -/
def crowdedNotes : List String := [
  "3 cv_outputs listed but only 2 DAC channels are available; the extra 1 are ignored.",
  "Label 'a' is bound 2 times (duplicate struct members).",
  "Label 'b' is bound 3 times (duplicate struct members).",
  "Label 'Init' reuses the name of a generated member (duplicate struct members)."]

/-- They tell all of it. -/
theorem ofDescription_tells_twice :
    normalizeHardware crowdedPanel = .ok crowdedPanel ∧
    Header.members crowdedPanel = .ok crowdedNames ∧ Binds crowdedPanel crowdedLabels ∧
    ofDescription crowdedPanel = .ok crowdedNotes ∧
    Tell crowdedNames crowdedLabels 3 2 crowdedNotes := by
  have hd : normalizeHardware crowdedPanel = .ok crowdedPanel := rfl
  have hnames : Header.members crowdedPanel = .ok crowdedNames := by decide +kernel
  have hnotes : ofDescription crowdedPanel = .ok crowdedNotes := by decide +kernel
  have hbinds : Binds crowdedPanel crowdedLabels :=
    binds_boundLabels (isDescription_of_normalize hd)
  obtain ⟨members, labels, listed, kept, hmembers, hlabels, hlisted, hkept, htells⟩ :=
    ofDescription_tells hd
  obtain rfl : crowdedNames = members := Except.ok.inj (hnames.symm.trans hmembers)
  obtain rfl : crowdedLabels = labels := hbinds.unique hlabels
  cases hlisted
  cases hkept
  obtain ⟨-, notes, hof, htell⟩ | ⟨-, herror⟩ := htells
  · obtain rfl : crowdedNotes = notes := Except.ok.inj (hnotes.symm.trans hof)
    exact ⟨hd, hnames, hbinds, hnotes, htell⟩
  · cases hnotes.symm.trans herror

end Notes

end ControlSurface
