import Mathlib.Data.List.Nodup
import SchedProbe.Json.Decoding

/-! Records with members in any order and under other keys too. A record is read by the keys of its fields,
so neither is of any account, and a field whose member is missing has its default. -/

set_option autoImplicit false

namespace SchedProbe.Json

section Lookup

variable {α : Type} {fields kept others : List (String × α)} {key : String}

theorem lookup_eq_head?_filter : fields.lookup key = (fields.filter (·.1 == key)).head?.map Prod.snd := by
  induction fields with
  | nil => rfl
  | cons field rest ih =>
    rw [List.lookup_cons, List.filter_cons, BEq.comm]
    cases field.1 == key with
    | true => rfl
    | false => exact ih

theorem lookup_filter (gone : String → Bool) :
    (fields.filter fun field => !gone field.1).lookup key = if gone key then none else fields.lookup key := by
  induction fields with
  | nil => split <;> rfl
  | cons field rest ih =>
    rw [List.filter_cons, List.lookup_cons]
    by_cases same : key = field.1
    · subst same
      cases missing : gone field.1 with
      | true => rw [missing, if_pos rfl] at ih; exact ih
      | false =>
        rw [BEq.rfl]
        exact List.lookup_cons_self
    · have other : (key == field.1) = false := beq_eq_false_iff_ne.2 same
      rw [other]
      split
      · rw [List.lookup_cons, other]
        exact ih
      · exact ih

/-- In a list that is `kept` with other keys strewn in, a look-up meets at most one member, the kept one. -/
theorem lookup_of_perm (order : fields.Perm (kept ++ others)) (apart : (kept.map Prod.fst).Nodup)
    (strange : ∀ other ∈ others, other.1 ≠ key) :
    fields.countP (·.1 == key) ≤ 1 ∧ fields.lookup key = kept.lookup key := by
  have missing : others.filter (·.1 == key) = [] :=
    List.filter_eq_nil_iff.2 fun other member found => strange other member (beq_iff_eq.1 found)
  have found : (fields.filter (·.1 == key)).Perm (kept.filter (·.1 == key)) := by
    have filtered := order.filter (·.1 == key)
    rwa [List.filter_append, missing, List.append_nil] at filtered
  have single : (kept.filter (·.1 == key)).length ≤ 1 := by
    have count := List.nodup_iff_count_le_one.1 apart key
    rwa [List.count, List.countP_map, List.countP_eq_length_filter] at count
  -- A list of at most one member has no other order.
  have same : fields.filter (·.1 == key) = kept.filter (·.1 == key) := by
    rcases Nat.le_one_iff_eq_zero_or_eq_one.1 single with none | one
    · rw [List.length_eq_zero_iff.1 none] at found ⊢
      exact found.eq_nil
    · obtain ⟨member, only⟩ := List.length_eq_one_iff.1 one
      rw [only] at found ⊢
      exact found.eq_singleton
  rw [List.countP_eq_length_filter, lookup_eq_head?_filter, lookup_eq_head?_filter, same]
  exact ⟨single, rfl⟩

theorem lookup_of_mem (apart : (fields.map Prod.fst).Nodup) {value : α} (member : (key, value) ∈ fields) :
    fields.lookup key = some value := by
  induction fields with
  | nil => cases member
  | cons field rest ih =>
    obtain ⟨fresh, apart⟩ := List.nodup_cons.1 apart
    rw [List.lookup_cons]
    rcases List.mem_cons.1 member with rfl | member
    · rw [BEq.rfl]
    · have other : key ≠ field.1 := fun same => fresh (same ▸ List.mem_map_of_mem member)
      rw [beq_eq_false_iff_ne.2 other]
      exact ih apart member

end Lookup

namespace Value

/-- An object with the members of `written` whose keys are not `gone`, in any order and with keys spelled in
any way, and with any other members under keys that `written` does not have. -/
inductive PartOf (written : List (String × Value)) (gone : String → Bool) : Value → Prop
  | intro {members : List (Literal × Value)} (named others : List (String × Value))
    (spelled : members.mapM (fun member => member.1.text?.map (·, member.2)) = some named)
    (order : named.Perm (written.filter (fun member => !gone member.1) ++ others))
    (strange : ∀ other ∈ others, other.1 ∉ written.map Prod.fst) :
    PartOf written gone (.object members)

variable {written : List (String × Value)} {gone : String → Bool} {value : Value}

theorem mapM_ofMembers :
    (written.map fun member => (Literal.ofText member.1, member.2)).mapM
      (fun member => member.1.text?.map (·, member.2)) = some written := by
  induction written with
  | nil => rfl
  | cons member rest ih =>
    simp only [List.map_cons, List.mapM_cons, Literal.text?_ofText, Option.map_some, ih, Option.bind_eq_bind,
      Option.bind_some, Option.pure_def]

theorem partOf_ofMembers : PartOf written (fun _ => false) (ofMembers written) := by
  refine .intro written [] mapM_ofMembers (.of_eq ?_) fun _ member => nomatch member
  rw [List.append_nil]
  exact (List.filter_true written).symm

theorem members?_ofMembers (once : List String) (apart : (written.map Prod.fst).Nodup) :
    (ofMembers written).members? once = some written := by
  simp only [ofMembers, members?, mapM_ofMembers, Option.bind_eq_bind, Option.bind_some]
  refine if_pos (List.all_eq_true.2 fun key _ => decide_eq_true ?_)
  exact (lookup_of_perm (.of_eq (List.append_nil written).symm) apart fun _ member => nomatch member).1

/-- Of a record only a part of which is left, a field reads as it was written, or has its default. -/
theorem PartOf.fields (part : value.PartOf written gone) (keys : List String)
    (named : written.map Prod.fst = keys) (apart : keys.Nodup) :
    ∃ fields, value.record? keys = some fields ∧
      ∀ {α : Type} {key : String} {member : Value} {read : Value → Option α} {x : α},
        (key, member) ∈ written → read member = some x →
          ∀ default, fieldOr fields key default read = some (if gone key then default else x) := by
  subst named
  cases part with
  | intro named others spelled order strange =>
    -- What is left has its keys apart, and no strange member has a key of the record.
    have kept : ((written.filter fun member => !gone member.1).map Prod.fst).Nodup :=
      apart.sublist (List.filter_sublist.map _)
    have found := fun key (known : key ∈ written.map Prod.fst) =>
      lookup_of_perm order kept fun other member same => strange other member (same ▸ known)
    refine ⟨named, ?_, ?_⟩
    · simp only [record?, members?, spelled, Option.bind_eq_bind, Option.bind_some]
      refine if_pos (List.all_eq_true.2 fun key known => ?_)
      exact decide_eq_true (found key known).1
    · intro α key member read x known taken default
      rw [fieldOr, (found key (List.mem_map_of_mem known)).2, lookup_filter, lookup_of_mem apart known]
      cases gone key with
      | true => rfl
      | false => exact taken

theorem PartOf.texts (part : value.PartOf written gone) (keys : List String)
    (named : written.map Prod.fst = keys) (apart : keys.Nodup) :
    ∃ fields, value.record? keys = some fields ∧
      ∀ key text, (key, ofText text) ∈ written →
        ∀ default, fieldOr fields key default text? = some (if gone key then default else text) := by
  obtain ⟨fields, record, read⟩ := part.fields keys named apart
  exact ⟨fields, record, fun key text member => read member (Literal.text?_ofText text)⟩

end Value

end SchedProbe.Json
