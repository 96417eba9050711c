import ControlSurface.Proofs.Entries
import ControlSurface.Proofs.Text.Number

/-!
# Members of the struct

The struct of a normalized description has no two members of one name, as long as labels are left
aside.
-/

namespace ControlSurface

open Schema

/-- The struct members that the entries of a kind introduce. -/
def Kind.memberNames (k : Kind) (entries : List Value) : List String :=
  if k = .oledDisplay then (List.range entries.length).map (numbered "display")
  else if entries.isEmpty then [] else (k.bank?.map Bank.members).getD []

lemma Kind.members_eq (k : Kind) (entries : List Value) :
    k.members (.arr entries) = .ok (k.memberNames entries) := by
  by_cases hdisplay : k = .oledDisplay
  · subst hdisplay
    rfl
  · rw [members, memberNames, if_neg hdisplay, if_neg hdisplay, Value.truthy_arr]
    cases k.bank? <;> cases entries <;> rfl

lemma orElse_obj (fields : List (String × Value)) :
    (Value.obj fields).orElse (.obj []) = .obj fields := by
  cases fields <;> rfl

lemma orElse_of_isDescription {d : Value} (hd : IsDescription d) : d.orElse (.obj []) = d := by
  obtain ⟨fields, rfl, -⟩ := hd
  exact orElse_obj fields

namespace Header

/-- The members of the struct before, and after, those that peripherals introduce. -/
def fixedMembers : List String :=
  bringUpRoutine :: controlDuties.map Duty.routine ++ [allControlsRoutine, lightDuty.routine]

/-- Every struct member of a normalized description. -/
def memberNames (d : Value) : List String :=
  board :: (Kind.all.flatMap fun k => k.memberNames (Description.slots d k)) ++ fixedMembers

/-- It is enough that everything that should be a list is one. -/
lemma members_eq_of_lists {d : Value} (hd : d.orElse (.obj []) = d)
    (h : ∀ k : Kind, ∀ key ∈ k.keys, Description.Lists d key) :
    members d = .ok (memberNames d) := by
  have hkinds : Kind.all.mapM (fun k => do
      k.members (.arr (← Description.entriesOf d k))) =
      .ok (Kind.all.map fun k => k.memberNames (Description.slots d k)) := by
    refine mapM_eq_ok fun k _ => ?_
    rw [Description.entriesOf_eq_slots (h k)]
    exact Kind.members_eq k _
  rw [members, hd]
  rw [hkinds]
  simp [memberNames, fixedMembers, List.flatMap, pure, Except.pure, bind, Except.bind]

theorem members_eq {d : Value} (hd : IsDescription d) : members d = .ok (memberNames d) :=
  members_eq_of_lists (orElse_of_isDescription hd) fun _ _ hkey =>
    let ⟨_, hrecord⟩ := Description.exists_isListedAs hkey
    Description.lists_of_isListedAs hd hrecord

end Header

lemma prefix_numbered (base : String) (i : ℕ) : base.toList <+: (numbered base i).toList := by
  rw [numbered]
  split_ifs
  · exact List.prefix_rfl
  · rw [String.toList_append]
    exact List.prefix_append _ _

lemma numbered_injective (base : String) : Function.Injective (numbered base) := by
  have hne {i : ℕ} (hi : i ≠ 0) : base ++ toString i ≠ base := by
    intro h
    have hlength := congrArg String.length h
    have hpos := Nat.length_repr_pos (n := i)
    rw [String.length_append, Nat.toString_eq_repr] at hlength
    omega
  intro i j h
  rw [numbered, numbered] at h
  split_ifs at h with hi hj hj
  · exact hi.trans hj.symm
  · exact absurd h.symm (hne hj)
  · exact absurd h (hne hi)
  · have hlist := congrArg String.toList h
    rw [String.toList_append, String.toList_append] at hlist
    exact Text.toString_injective (List.append_cancel_left hlist)

/-- The members that a kind introduces at most, if there are so many displays. -/
def Kind.allMemberNames (displays : ℕ) (k : Kind) : List String :=
  if k = .oledDisplay then (List.range displays).map (numbered "display")
  else (k.bank?.map Bank.members).getD []

lemma Kind.memberNames_sublist (k : Kind) (entries : List Value) :
    (k.memberNames entries).Sublist (k.allMemberNames entries.length) := by
  unfold memberNames allMemberNames
  split_ifs
  · exact List.Sublist.refl _
  · exact List.nil_sublist _
  · exact List.Sublist.refl _

lemma flatMap_sublist {α β : Type} {f g : α → List β} (l : List α)
    (h : ∀ a ∈ l, (f a).Sublist (g a)) : (l.flatMap f).Sublist (l.flatMap g) := by
  induction l with
  | nil => exact List.Sublist.refl _
  | cons a l ih =>
    obtain ⟨ha, hl⟩ := List.forall_mem_cons.1 h
    exact ha.append (ih hl)

/-- The names of displays stand out among all others. -/
lemma nodup_allMemberNames (displays : ℕ) :
    (Header.board :: Kind.all.flatMap (Kind.allMemberNames displays) ++
      Header.fixedMembers).Nodup := by
  let front := ["seed", "controls", "encoders", "encoder", "gate_inputs", "leds"]
  let back := ["rgb_leds", "switches"] ++ Header.fixedMembers
  have hfixed : (front ++ back).Nodup := by decide
  have hother : ∀ name ∈ front ++ back, ¬"display".toList <+: name.toList := by decide
  have hdisplays : ((List.range displays).map (numbered "display")).Nodup :=
    List.nodup_range.map (numbered_injective "display")
  have hne : ∀ name ∈ (List.range displays).map (numbered "display"), name ∉ front ++ back := by
    intro name hname hmem
    obtain ⟨i, -, rfl⟩ := List.mem_map.1 hname
    exact hother _ hmem (prefix_numbered "display" i)
  have heq : Header.board :: Kind.all.flatMap (Kind.allMemberNames displays) ++
      Header.fixedMembers = front ++ ((List.range displays).map (numbered "display") ++ back) := by
    simp [front, back, Header.board, Kind.all, Kind.allMemberNames, Kind.bank?, Bank.members,
      Bank.arrayName, Bank.shortcuts]
  rw [heq]
  rw [List.nodup_append] at hfixed
  obtain ⟨hfront, hback, hapart⟩ := hfixed
  refine List.nodup_append.2 ⟨hfront, List.nodup_append.2 ⟨hdisplays, hback, ?_⟩, ?_⟩
  · rintro name hname _ hother rfl
    exact hne name hname (List.mem_append_right _ hother)
  · rintro name hname _ hother rfl
    rcases List.mem_append.1 hother with hdisplay | hback
    · exact hne name hdisplay (List.mem_append_left _ hname)
    · exact hapart name hname name hback rfl

theorem Header.nodup_memberNames (d : Value) : (memberNames d).Nodup := by
  refine (nodup_allMemberNames (Description.slots d .oledDisplay).length).sublist ?_
  refine ((flatMap_sublist _ fun k _ => ?_).cons_cons _).append (List.Sublist.refl _)
  by_cases hk : k = .oledDisplay
  · subst hk
    exact Kind.memberNames_sublist _ _
  · have h := Kind.memberNames_sublist k (Description.slots d k)
    rw [Kind.allMemberNames, if_neg hk] at h ⊢
    exact h

end ControlSurface
