import ControlSurface.Proofs.Header.Typed
import ControlSurface.Proofs.Schema.Reordering
import ControlSurface.Proofs.Service.Generation
import ControlSurface.Schema.Request

/-!
# The order of the fields of a request

Two requests that differ only in the order in which objects give their fields find the same answer.
What is written, counted and noted is read from declared fields, and these are in the same places
once the requests have been checked; if they do not pass, they fail for the same reasons.
-/

namespace ControlSurface

open Schema

/-! ### Descriptions -/

namespace Schema

variable {τ : Type} {alike : τ → Value → Value → Prop} {r : Record τ} {f : Field τ}
  {e e' d d' : Value}

lemma get_eq_of_alike (h : r.Alike alike e e') (hf : f ∈ r.fields)
    (heq : ∀ v w, alike f.type v w → v = w) : e.get f.spelling = e'.get f.spelling := by
  obtain ⟨fields, fields', rfl, rfl, hfields⟩ := h
  rw [Value.get_obj, Value.get_obj, eq_of_rel (hfields f hf) heq]

lemma eq_of_isSimple {t : EntryType} (hsimple : t.isSimple = true) (v w : Value)
    (h : t.Alike v w) : v = w := by
  obtain ⟨type, rfl⟩ := EntryType.exists_eq_scalar hsimple
  exact h

lemma Record.Alike.isObject (h : r.Alike alike e e') : e.IsObject ∧ e'.IsObject := by
  obtain ⟨fields, fields', rfl, rfl, -⟩ := h
  exact ⟨⟨fields, rfl⟩, ⟨fields', rfl⟩⟩

lemma listed_of_alike (h : DescriptionAlike d d') {key : String} {record : Record EntryType}
    (hkey : Description.IsListedAs key record) : List.Forall₂ (record.Alike EntryType.Alike)
      (Description.listed d key) (Description.listed d' key) := by
  obtain ⟨fields, fields', rfl, rfl, hfields⟩ := h
  have hlists : Option.Rel (ItemByItem (record.Alike EntryType.Alike)) (fields.lookup key)
    (fields'.lookup key) := hfields _ hkey
  rw [Description.listed, Description.listed]
  generalize fields.lookup key = o at hlists ⊢
  generalize fields'.lookup key = o' at hlists ⊢
  cases hlists with
  | none => exact .nil
  | some hitems =>
    obtain ⟨items, items', rfl, rfl, hentries⟩ := hitems
    exact hentries

end Schema

namespace Kind

variable {k : Kind} {b : Bank} {key : String} {record : Record EntryType} {e e' : Value}

lemma agreeOn_of_alike (hb : k.bank? = some b) (hlistKey : key ∈ k.keys)
    (hkey : Description.IsListedAs key record) (h : record.Alike EntryType.Alike e e') :
    e.AgreeOn b.readKeys e' := by
  intro name hname
  rcases List.mem_cons.1 hname with rfl | hname
  · exact get_eq_of_alike h (Label.mem_fields hkey) fun _ _ heq => heq
  · obtain ⟨g, hg, rfl, -, hsimple⟩ := readKeys_isSimple k b hb _ hkey hlistKey name hname
    exact get_eq_of_alike h hg (eq_of_isSimple hsimple)

end Kind

namespace Display

variable {e e' : Value}

/-- The settings of a transport are the same under the declared keys. -/
lemma settings_of_alike (h : display.Alike EntryType.Alike e e') {f : Schema.Field EntryType}
    (hf : f ∈ display.fields) {record : Record Scalar} (htype : f.type = .settings record)
    (keys : List String) (hkeys : ∀ key ∈ keys, ∃ g ∈ record.fields, g.spelling = key) :
    ∃ s s', settingsOf e f.spelling = .ok s ∧ settingsOf e' f.spelling = .ok s' ∧
      s.AgreeOn keys s' := by
  obtain ⟨hobject, hobject'⟩ := h.isObject
  refine ⟨_, _, settingsOf_eq hobject _, settingsOf_eq hobject' _, ?_⟩
  obtain ⟨fields, fields', rfl, rfl, hfields⟩ := h
  have hsettings : Option.Rel (record.Alike fun _ => Eq) (fields.lookup f.spelling)
      (fields'.lookup f.spelling) := by
    have hfield := hfields f hf
    rwa [htype] at hfield
  rw [settingsIn_eq_field hobject, settingsIn_eq_field hobject', Value.field, Value.field]
  generalize fields.lookup f.spelling = o at hsettings ⊢
  generalize fields'.lookup f.spelling = o' at hsettings ⊢
  cases hsettings with
  | none => exact fun _ _ => rfl
  | some hrecord =>
    obtain ⟨⟨given, rfl⟩, given', rfl⟩ := hrecord.isObject
    rw [Option.getD_some, Option.getD_some, orElse_obj, orElse_obj]
    intro key hkey
    obtain ⟨g, hg, rfl⟩ := hkeys key hkey
    exact get_eq_of_alike hrecord hg fun _ _ heq => heq

theorem agree_of_alike (h : display.Alike EntryType.Alike e e') : Agree e e' where
  driver := by
    intro key hkey
    have htext : ∀ key ∈ driverKeys, textField key ∈ display.fields := by
      simp [driverKeys, display, entry]
    exact get_eq_of_alike h (htext key hkey) fun _ _ heq => heq
  settings := by
    have hspiField : ⟨"spi_config", some "4_wire_spi_config", .settings spiSettings⟩ ∈
        display.fields := by simp [display, entry]
    have hi2cField : .plain "i2c_config" (.settings i2cSettings) ∈ display.fields := by
      simp [display, entry]
    have hserial := settings_of_alike h hspiField rfl serial.fields (by decide)
    have hbus := settings_of_alike h hi2cField rfl bus.fields (by decide)
    exact List.forall_mem_cons.2 ⟨fun _ => hserial, List.forall_mem_singleton.2 fun _ => hbus⟩

end Display

namespace Description

variable {d d' : Value}

/-- No kind can tell normalized descriptions apart that are the same under the declared keys. -/
theorem agree_of_alike (hd : IsDescription d) (hd' : IsDescription d')
    (h : DescriptionAlike d d') : Agree d d' := by
  intro k
  refine ⟨_, _, entriesOf_eq hd k, entriesOf_eq hd' k, ?_⟩
  have hentries {R : Value → Value → Prop} (hR : ∀ key ∈ k.keys, ∀ record,
      IsListedAs key record → ∀ e e', record.Alike EntryType.Alike e e' → R e e') :
      List.Forall₂ R (slots d k) (slots d' k) := by
    refine forall₂_slots fun key hkey => ?_
    obtain ⟨record, hrecord⟩ := exists_isListedAs hkey
    exact (listed_of_alike h hrecord).imp (hR key hkey record hrecord)
  have hbank {b : Bank} (hb : k.bank? = some b) :
      List.Forall₂ (Value.AgreeOn b.readKeys) (slots d k) (slots d' k) :=
    hentries fun _ hkey _ hrecord _ _ he => Kind.agreeOn_of_alike hb hkey hrecord he
  cases k with
  | oledDisplay =>
    refine hentries fun key hkey record hrecord e e' he => ?_
    obtain rfl := List.mem_singleton.1 hkey
    rw [eq_display_of_isListedAs hrecord] at he
    exact Display.agree_of_alike he
  | cvOutput =>
    exact Kind.isEmpty_congr (hentries (R := fun _ _ => True) fun _ _ _ _ _ _ _ => trivial)
  | gateOutput | midiHandler => trivial
  | _ => exact hbank rfl

end Description

/-! ### Answers -/

namespace Service

open Description

variable {d d' : Value}

/-- The same header, the same counts in the same order, and the same notes in the same order. -/
theorem generate_congr (hd : IsDescription d) (hd' : IsDescription d') (h : DescriptionAlike d d')
    (structName : String) : generate ⟨d, structName⟩ = generate ⟨d', structName⟩ := by
  have hagree := agree_of_alike hd hd' h
  obtain ⟨hobject, hobject'⟩ := h.isObject
  have hlists : ∀ k : Kind, ∀ key ∈ k.keys, Lists d key ∧ Lists d' key ∧
      List.Forall₂ (Value.AgreeOn ["labels"]) (listed d key) (listed d' key) := by
    intro k key hkey
    obtain ⟨record, hrecord⟩ := exists_isListedAs hkey
    refine ⟨lists_of_isListedAs hd hrecord, lists_of_isListedAs hd' hrecord, ?_⟩
    refine (listed_of_alike h hrecord).imp fun e e' he name hname => ?_
    obtain rfl := List.mem_singleton.1 hname
    exact get_eq_of_alike he (Label.mem_fields hrecord) fun _ _ heq => heq
  have hkinds : ∀ key ∈ entryKeys, ∃ k : Kind, key ∈ k.keys := fun key hkey =>
    let ⟨k, _, hk⟩ := List.mem_flatMap.1 hkey
    ⟨k, hk⟩
  have hcounts : counts d = counts d' := by
    rw [counts_eq hd, counts_eq hd']
    refine congrArg Except.ok (List.map_congr_left fun key hkey => ?_)
    obtain ⟨k, hk⟩ := hkinds key hkey
    rw [(hlists k key hk).2.2.length_eq]
  have htally : Notes.tally d = Notes.tally d' := by
    refine Notes.tally_congr fun key hkey => ?_
    have hall : ∀ key ∈ labelKeys, key ∈ entryKeys := by decide
    obtain ⟨k, hk⟩ := hkinds key (hall key hkey)
    exact hlists k key hk
  obtain ⟨hcv, hcv', hcvEntries⟩ := hlists .cvOutput "cv_outputs" (List.mem_singleton_self _)
  have hnotes : Notes.ofDescription d = Notes.ofDescription d' :=
    Notes.ofDescription_congr hcv hcv' hcvEntries.length_eq
      (Header.members_congr hobject hobject' hagree) htally
  have hsource : Header.source d structName = Header.source d' structName :=
    Header.source_congr hobject hobject' hagree structName
  rw [generate, generate, sourceOf, sourceOf, hsource, hcounts, hnotes]

end Service

/-! ### Requests -/

namespace Schema

variable {α : Type} {R : α → α → Prop} {check : Value → Checked α}
  {given given' : List (String × Value)} {v v' : Value}

lemma NameRule.check_alike (rule : NameRule) (h : v.Reordered v') :
    Checked.Alike Eq (rule.check v) (rule.check v') := by
  cases h with
  | str s => exact .same (fun _ => rfl) _
  | _ => exact .problem _ _ _

section Fields

variable (hgiven : ∀ key, Option.Rel Value.Reordered (given.lookup key) (given'.lookup key))
  (hcheck : ∀ v v', v.Reordered v' → Checked.Alike R (check v) (check v'))
include hgiven hcheck

lemma required_alike (key : String) :
    Checked.Alike R (required given key check) (required given' key check) := by
  have hvalue := hgiven key
  unfold required
  generalize given.lookup key = o at hvalue ⊢
  generalize given'.lookup key = o' at hvalue ⊢
  cases hvalue with
  | none => exact (Checked.Alike.problem _ _ _).under _
  | some h => exact (hcheck _ _ h).under _

lemma defaulted_alike (key : String) {default : α} (hdefault : R default default) :
    Checked.Alike R (defaulted given key default check) (defaulted given' key default check) := by
  have hvalue := hgiven key
  unfold defaulted
  generalize given.lookup key = o at hvalue ⊢
  generalize given'.lookup key = o' at hvalue ⊢
  cases hvalue with
  | none => exact .ok hdefault
  | some h => exact (hcheck _ _ h).under _

end Fields

/-- What is read from a request is normalized. -/
lemma HeaderRequest.read_eq_ok {body : Value} {request : HeaderRequest}
    (h : HeaderRequest.read body = .ok request) :
    ∃ given hardware, body = .obj given ∧ given.lookup "hardware" = some hardware ∧
      normalizeHardware hardware = .ok request.hardware := by
  cases body with
  | obj given =>
    obtain ⟨⟨d, structName⟩, hboth, rfl⟩ := Checked.map_eq_ok_iff.1 h
    have hrequired := Checked.under_eq_ok_iff.1 (Checked.both_eq_ok_iff.1 hboth).1
    cases hlookup : given.lookup "hardware" with
    | none =>
      rw [hlookup] at hrequired
      cases hrequired
    | some hardware =>
      rw [hlookup] at hrequired
      exact ⟨given, hardware, rfl, hlookup, hrequired⟩
  | _ => cases h

/-- Requests that differ in the order of fields ask for the same or have the same issues. -/
theorem HeaderRequest.read_alike {body body' : Value} (h : body.Reordered body') :
    Checked.Alike (fun request request' => request.structName = request'.structName ∧
      DescriptionAlike request.hardware request'.hardware)
      (HeaderRequest.read body) (HeaderRequest.read body') := by
  cases h with
  | obj hgiven =>
    have hhardware := required_alike hgiven (fun _ _ hv => normalizeHardware_alike hv) "hardware"
    have hname := defaulted_alike hgiven (fun _ _ hv => structNameRule.check_alike hv)
      "struct_name" (rfl : Header.defaultName = Header.defaultName)
    exact (hhardware.both hname).map fun _ _ ⟨hd, hs⟩ => ⟨hs, hd⟩
  | _ => exact .problem _ _ _

end Schema

namespace Service

/-- What is told of an issue with a request: its code, where it is, and its wording. -/
def told (origin : Origin) (i : Issue) : String × List Step × String :=
  (i.problem.code origin, i.path, i.problem.message origin)

/-- Two requests that differ only in the order in which objects give their fields are both answered,
in the same way, or are both found to have the same issues in the same order. An answer comes out
unless the request is made of more values than there can be. -/
theorem generate_of_reordered {body body' : Value} (h : body.Reordered body') :
    (∃ request request', HeaderRequest.read body = .ok request ∧
      HeaderRequest.read body' = .ok request' ∧ generate request = generate request' ∧
      ((∃ generated, generate request = .ok generated) ∨ Notes.countBound ≤ body.size)) ∨
    ∃ found found', HeaderRequest.read body = .error found ∧
      HeaderRequest.read body' = .error found' ∧
      ∀ origin, found.map (told origin) = found'.map (told origin) := by
  have hread := HeaderRequest.read_alike h
  generalize hrequest : HeaderRequest.read body = outcome at hread ⊢
  generalize hrequest' : HeaderRequest.read body' = outcome' at hread ⊢
  cases hread with
  | @ok request request' hsame =>
    obtain ⟨given, hardware, rfl, hlookup, hd⟩ := HeaderRequest.read_eq_ok hrequest
    obtain ⟨given', hardware', rfl, -, hd'⟩ := HeaderRequest.read_eq_ok hrequest'
    refine .inl ⟨request, request', rfl, rfl, ?_, ?_⟩
    · obtain ⟨d, structName⟩ := request
      obtain ⟨d', structName'⟩ := request'
      obtain ⟨rfl, halike⟩ : structName = structName' ∧ DescriptionAlike d d' := hsame
      exact generate_congr (isDescription_of_normalize hd) (isDescription_of_normalize hd')
        halike structName
    · rw [or_iff_not_imp_right, not_le]
      intro hsize
      have hfit : hardware.size < Notes.countBound := by
        have hle := Value.size_le_of_lookup hlookup
        rw [Value.size] at hsize
        omega
      have hdescription := isDescription_of_normalize hd
      exact ⟨_, generate_eq_ok (Header.source_eq hdescription request.structName)
        (Description.counts_eq hdescription)
        (Notes.ofDescription_eq_ok hdescription (Notes.count_lt_countBound hd hfit))⟩
  | @error found found' hsame =>
    have htold (origin : Origin) (found : List Issue) : found.map (told origin) =
        (found.map Issue.finding).map fun p => (p.2.code origin, p.1, p.2.message origin) := by
      rw [List.map_map]
      rfl
    exact .inr ⟨found, found', rfl, rfl, fun origin => by rw [htold, htold, hsame]⟩

/-- A request whose fields come in another order, and so do those of its description, of the entries
in it, of a field that is not declared and of the settings of a display. -/
theorem generate_of_reordered_swap :
    let colour : Value := .obj [("red", .int 1), ("blue", .null)]
    let colour' : Value := .obj [("blue", .null), ("red", .int 1)]
    let led : Value := .obj [("labels", .arr [.str "a", .str "a"]), ("colour", colour)]
    let led' : Value := .obj [("colour", colour'), ("labels", .arr [.str "a", .str "a"])]
    let settings : Value := .obj [("pin_dc", .int 9), ("pin_reset", .int 30)]
    let settings' : Value := .obj [("pin_reset", .int 30), ("pin_dc", .int 9)]
    let display : Value := .obj [("transport", .str "4WireSpi"), ("4_wire_spi_config", settings)]
    let display' : Value := .obj [("4_wire_spi_config", settings'), ("transport", .str "4WireSpi")]
    let hardware : Value := .obj [("oled_displays", .arr [display]), ("leds", .arr [led])]
    let hardware' : Value := .obj [("leds", .arr [led']), ("oled_displays", .arr [display'])]
    let body : Value := .obj [("struct_name", .str "Panel"), ("hardware", hardware)]
    let body' : Value := .obj [("hardware", hardware'), ("struct_name", .str "Panel")]
    body.Reordered body' ∧ ∃ request request' generated, HeaderRequest.read body = .ok request ∧
      HeaderRequest.read body' = .ok request' ∧ generate request = .ok generated ∧
      generate request' = .ok generated ∧
      generated.notes = ["Label 'a' is bound 2 times (duplicate struct members)."] := by
  intro colour colour' led led' settings settings' display display' hardware hardware' body body'
  have hcolour : colour.Reordered colour' :=
    .of_perm (by decide) (List.forall₂_same.2 fun _ _ => ⟨rfl, .refl _⟩) (.swap _ _ _)
  have hsettings : settings.Reordered settings' :=
    .of_perm (by decide) (List.forall₂_same.2 fun _ _ => ⟨rfl, .refl _⟩) (.swap _ _ _)
  have hled : led.Reordered led' := by
    refine .of_perm (by decide) ?_ (.swap _ _ _)
    exact .cons ⟨rfl, .refl _⟩ (.cons ⟨rfl, hcolour⟩ .nil)
  have hdisplay : display.Reordered display' := by
    refine .of_perm (by decide) ?_ (.swap _ _ _)
    exact .cons ⟨rfl, .str _⟩ (.cons ⟨rfl, hsettings⟩ .nil)
  have hhardware : hardware.Reordered hardware' := by
    refine .of_perm (by decide) ?_ (.swap _ _ _)
    exact .cons ⟨rfl, .arr (.cons hdisplay .nil)⟩ (.cons ⟨rfl, .arr (.cons hled .nil)⟩ .nil)
  have h : body.Reordered body' := by
    refine .of_perm (by decide) ?_ (.swap _ _ _)
    exact .cons ⟨rfl, .str _⟩ (.cons ⟨rfl, hhardware⟩ .nil)
  have hsize : body.size < Notes.countBound :=
    Notes.lt_countBound (by decide : 7 ≤ 4300) (by decide)
  obtain ⟨request, request', hread, hread', hsame, hanswer⟩ | ⟨found, -, herror, -⟩ :=
    generate_of_reordered h
  · obtain ⟨generated, hgenerated⟩ := hanswer.resolve_right hsize.not_ge
    have hnotes : (generate request).toOption.map Generated.notes =
        some ["Label 'a' is bound 2 times (duplicate struct members)."] := by
      rw [← Except.ok.inj hread]
      rfl
    rw [hgenerated] at hnotes
    exact ⟨h, request, request', generated, hread, hread', hgenerated, hsame ▸ hgenerated,
      Option.some.inj hnotes⟩
  · cases herror

end Service

end ControlSurface
