import ControlSurface.Proofs.Text.Lines

/-!
# How lines open

What a line begins with, its indent left aside. Of a line that is known to begin with one of some
leads, it can be told without reading on that it does not open with a word none of them agrees with.
-/

namespace ControlSurface.Text

/-- Whether a line begins with a word after its indent. -/
def opens (word line : String) : Bool :=
  word.toList.isPrefixOf (line.toList.dropWhile fun c => c = ' ')

/-- Whether a line ends in a word, its indent left aside. -/
def closes (word line : String) : Bool :=
  word.toList.isSuffixOf (line.toList.dropWhile fun c => c = ' ')

/-- Whether a line begins with a lead. -/
def Leads (lead line : String) : Prop := lead.toList <+: line.toList

instance (lead line : String) : Decidable (Leads lead line) :=
  inferInstanceAs (Decidable (_ <+: _))

/-- Whether a text does not begin with a space. -/
def isFlush (s : String) : Bool :=
  match s.toList with
  | [] => false
  | c :: _ => c ≠ ' '

/-- Whether one of two texts begins with the other. -/
def agree (s t : String) : Bool :=
  s.toList.isPrefixOf t.toList || t.toList.isPrefixOf s.toList

variable {word lead line : String} {lines leads : List String}

lemma leads_append (lead rest : String) : Leads lead (lead ++ rest) := by
  rw [Leads, String.toList_append]
  exact List.prefix_append _ _

lemma Leads.append (h : Leads lead line) (rest : String) : Leads lead (line ++ rest) := by
  rw [Leads, String.toList_append]
  exact h.trans (List.prefix_append _ _)

lemma Leads.isFlush (h : Leads lead line) (hlead : isFlush lead = true) :
    Text.isFlush line = true := by
  obtain ⟨rest, hrest⟩ := h
  rw [Text.isFlush] at hlead ⊢
  cases hchars : lead.toList with
  | nil => simp [hchars] at hlead
  | cons c chars =>
    rw [hchars] at hlead hrest
    rw [← hrest]
    exact hlead

lemma dropWhile_of_isFlush (h : isFlush line = true) :
    line.toList.dropWhile (fun c => decide (c = ' ')) = line.toList := by
  rw [isFlush] at h
  cases hchars : line.toList with
  | nil => rfl
  | cons c chars =>
    rw [hchars] at h
    rw [List.dropWhile_cons_of_neg (by simpa using h)]

lemma opens_of_isFlush (h : isFlush line = true) :
    opens word line = word.toList.isPrefixOf line.toList := by
  rw [opens, dropWhile_of_isFlush h]

lemma closes_of_isFlush (h : isFlush line = true) :
    closes word line = word.toList.isSuffixOf line.toList := by
  rw [closes, dropWhile_of_isFlush h]

/-- A line opens with what it begins with. -/
lemma Leads.opens (h : Leads word line) (hword : Text.isFlush word = true) :
    opens word line = true := by
  rw [opens_of_isFlush (h.isFlush hword), List.isPrefixOf_iff_prefix]
  exact h

lemma Leads.not_leads (h : Leads lead line) (hagree : agree word lead = false) :
    ¬Leads word line := by
  intro hprefix
  rw [agree, Bool.or_eq_false_iff, Bool.eq_false_iff, Bool.eq_false_iff] at hagree
  rcases List.prefix_or_prefix_of_prefix hprefix h with hword | hlead
  · exact hagree.1 (List.isPrefixOf_iff_prefix.2 hword)
  · exact hagree.2 (List.isPrefixOf_iff_prefix.2 hlead)

lemma agree_comm (s t : String) : agree s t = agree t s := Bool.or_comm _ _

/-- Texts do not agree if they differ whatever they go on with. -/
lemma agree_eq_false {s t : String} (h : ∀ u v, s.toList ++ u ≠ t.toList ++ v) :
    agree s t = false := by
  rw [agree, Bool.or_eq_false_iff, Bool.eq_false_iff, Bool.eq_false_iff]
  constructor
  · intro hprefix
    obtain ⟨u, hu⟩ := List.isPrefixOf_iff_prefix.1 hprefix
    exact h u [] (by rw [hu, List.append_nil])
  · intro hprefix
    obtain ⟨v, hv⟩ := List.isPrefixOf_iff_prefix.1 hprefix
    exact h [] v (by rw [hv, List.append_nil])

/-- What does not agree with a beginning does not agree with the whole. -/
lemma Leads.agree_eq_false {s t : String} (h : Leads lead s) (hagree : agree lead t = false) :
    agree s t = false := by
  obtain ⟨rest, hrest⟩ := h
  refine Text.agree_eq_false fun u v heq => ?_
  rw [← hrest, List.append_assoc] at heq
  rw [agree, Bool.or_eq_false_iff, Bool.eq_false_iff, Bool.eq_false_iff] at hagree
  rcases List.prefix_or_prefix_of_prefix ⟨_, heq⟩ (List.prefix_append _ _) with hlead | hother
  · exact hagree.1 (List.isPrefixOf_iff_prefix.2 hlead)
  · exact hagree.2 (List.isPrefixOf_iff_prefix.2 hother)

/-- A line does not open with a word that does not agree with its beginning. -/
lemma Leads.opens_eq_false (h : Leads lead line) (hlead : Text.isFlush lead = true)
    (hagree : agree word lead = false) : Text.opens word line = false := by
  rw [opens_of_isFlush (h.isFlush hlead), Bool.eq_false_iff]
  intro hprefix
  exact h.not_leads hagree (List.isPrefixOf_iff_prefix.1 hprefix)

/-- A line that opens with a word opens with every beginning of it. -/
lemma opens_of_leads (h : Leads lead word) (hopens : opens word line = true) :
    opens lead line = true := by
  rw [opens, List.isPrefixOf_iff_prefix] at hopens ⊢
  exact h.trans hopens

section Indent

variable {indent : String} (h : ∀ c ∈ indent.toList, c = ' ')
include h

lemma dropWhile_indent (line : String) :
    (indent ++ line).toList.dropWhile (fun c => decide (c = ' ')) =
      line.toList.dropWhile fun c => c = ' ' := by
  rw [String.toList_append, List.dropWhile_append_of_pos]
  exact fun c hc => decide_eq_true (h c hc)

lemma opens_indent (word line : String) : opens word (indent ++ line) = opens word line := by
  rw [opens, opens, dropWhile_indent h]

lemma closes_indent (word line : String) : closes word (indent ++ line) = closes word line := by
  rw [closes, closes, dropWhile_indent h]

end Indent

lemma filter_opens_cons (h : opens word line = true) (lines : List String) :
    (line :: lines).filter (opens word) = line :: lines.filter (opens word) :=
  List.filter_cons_of_pos h

lemma filter_opens_cons_of_eq_false (h : opens word line = false) (lines : List String) :
    (line :: lines).filter (opens word) = lines.filter (opens word) :=
  List.filter_cons_of_neg (Bool.eq_false_iff.1 h)

/-! ### Lines with known leads -/

/-- Whether every text is one line that begins with one of some leads. -/
def AllLed (leads lines : List String) : Prop :=
  ∀ line ∈ lines, OneLine line ∧ ∃ lead ∈ leads, Leads lead line

lemma AllLed.nil (leads : List String) : AllLed leads [] := fun _ h => absurd h List.not_mem_nil

lemma AllLed.cons (hone : OneLine line) (hmem : lead ∈ leads) (hlead : Leads lead line)
    (h : AllLed leads lines) : AllLed leads (line :: lines) :=
  List.forall_mem_cons.2 ⟨⟨hone, lead, hmem, hlead⟩, h⟩

lemma AllLed.append {more : List String} (h : AllLed leads lines) (h' : AllLed leads more) :
    AllLed leads (lines ++ more) := by
  intro line hline
  rcases List.mem_append.1 hline with hline | hline
  · exact h line hline
  · exact h' line hline

lemma AllLed.flatten {blocks : List (List String)} (h : ∀ block ∈ blocks, AllLed leads block) :
    AllLed leads blocks.flatten := by
  intro line hline
  obtain ⟨block, hblock, hline⟩ := List.mem_flatten.1 hline
  exact h block hblock line hline

/-- Lines that all begin with one lead. -/
lemma allLed_of_forall (hmem : lead ∈ leads)
    (h : ∀ line ∈ lines, OneLine line ∧ Leads lead line) : AllLed leads lines :=
  fun line hline => ⟨(h line hline).1, lead, hmem, (h line hline).2⟩

/-- No line opens with a word that does not agree with any lead. -/
lemma AllLed.filter_opens (h : AllLed leads lines)
    (hleads : ∀ lead ∈ leads, isFlush lead = true ∧ agree word lead = false) :
    lines.filter (opens word) = [] := by
  rw [List.filter_eq_nil_iff]
  intro line hline hopens
  obtain ⟨-, lead, hlead, hline⟩ := h line hline
  obtain ⟨hflush, hagree⟩ := hleads lead hlead
  rw [hline.opens_eq_false hflush hagree] at hopens
  exact Bool.false_ne_true hopens

/-- All lines that begin with a word open with it. -/
lemma filter_opens_of_leads (hword : isFlush word = true) (h : ∀ line ∈ lines, Leads word line) :
    lines.filter (opens word) = lines :=
  List.filter_eq_self.2 fun line hline => (h line hline).opens hword

/-- None of them opens with a word that does not agree with what they begin with. -/
lemma filter_opens_of_agree (hlead : isFlush lead = true) (hagree : agree word lead = false)
    (h : ∀ line ∈ lines, Leads lead line) : lines.filter (opens word) = [] :=
  List.filter_eq_nil_iff.2 fun line hline =>
    Bool.eq_false_iff.1 ((h line hline).opens_eq_false hlead hagree)

/-- Lines that all begin with one lead open with a word if it is that lead, unless the word agrees
with the lead in another way. -/
lemma filter_opens_of_lead (hlead : isFlush lead = true)
    (hagree : word ≠ lead → agree word lead = false) (h : ∀ line ∈ lines, Leads lead line) :
    lines.filter (opens word) = if word = lead then lines else [] := by
  by_cases heq : word = lead
  · rw [if_pos heq, heq]
    exact filter_opens_of_leads hlead h
  · rw [if_neg heq]
    exact filter_opens_of_agree hlead (hagree heq) h

lemma filter_opens_indent {indent : String} (h : ∀ c ∈ indent.toList, c = ' ') (word : String)
    (lines : List String) :
    (lines.map (indent ++ ·)).filter (opens word) =
      (lines.filter (opens word)).map (indent ++ ·) := by
  rw [List.filter_map]
  congr 2
  funext line
  exact opens_indent h word line

end ControlSurface.Text
