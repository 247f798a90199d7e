import TransferRegistry.Json.Codec
import TransferRegistry.Proofs.Json.Fraction
import TransferRegistry.Proofs.Json.RoundTrip

/-!
# Faithful codecs

* `Faithful`: what is written of a value can be parsed and read; `reread` is what is read. For most types that is the
  value itself, but a fraction may differ from the one that was written.
* `bind_readMembers?` and `required_of_lookup`: of a record that was written, each member is found by its name.
-/

namespace TransferRegistry.Json

/-- A codec that reads whatever it has written, as `reread`. -/
class Faithful (α : Type) [Codec α] where
  reread : α → α
  proper : ∀ a : α, Proper (toJson a)
  fromJson?_toJson : ∀ a : α, fromJson? (toJson a) = some (reread a)

export Faithful (reread)

/-! ## Plain values -/

instance : Faithful String where
  reread := id
  proper s := .str s
  fromJson?_toJson _ := rfl

instance : Faithful Bool where
  reread := id
  proper b := .bool b
  fromJson?_toJson _ := rfl

theorem proper_ofNat (n : Nat) : Proper (ofNat n) := .num nofun

theorem proper_ofInt (n : Int) : Proper (ofInt n) := .num nofun

instance : Faithful UInt64 where
  reread := id
  proper n := proper_ofNat n.toNat
  fromJson?_toJson n := by
    have hn : n.toNat < 1 <<< 64 := n.toNat_lt
    show (Number.ofNat n.toNat).toUInt64? = some n
    simp only [Number.toUInt64?, Number.ofNat, Number.toNat?, if_pos hn, Option.map_some, UInt64.ofNat_toNat]

instance : Faithful UInt32 where
  reread := id
  proper n := proper_ofNat n.toNat
  fromJson?_toJson n := by
    have hn : n.toNat < 1 <<< 32 := n.toNat_lt
    show (Number.ofNat n.toNat).toUInt32? = some n
    simp only [Number.toUInt32?, Number.ofNat, Number.toNat?, if_pos hn, Option.map_some, UInt32.ofNat_toNat]

instance : Faithful Int64 where
  reread := id
  proper n := proper_ofInt n.toInt
  fromJson?_toJson n := by
    have hlow := n.le_toInt
    have hhigh := n.toInt_lt
    show (Number.ofInt n.toInt).toInt64? = some n
    by_cases hneg : n.toInt < 0
    · have hbounds : 0 < n.toInt.natAbs ∧ n.toInt.natAbs ≤ 0x8000000000000000 := by omega
      have hvalue : -(n.toInt.natAbs : Int) = n.toInt := by omega
      simp only [Number.ofInt, hneg, decide_true, Number.toInt64?, if_pos hbounds, hvalue, Int64.ofInt_toInt]
    · have hbound : n.toInt.natAbs < 0x8000000000000000 := by omega
      have hvalue : Int64.ofNat n.toInt.natAbs = n := by
        rw [← Int64.ofInt_eq_ofNat, show ((n.toInt.natAbs : Nat) : Int) = n.toInt by omega, Int64.ofInt_toInt]
      simp only [Number.ofInt, hneg, decide_false, Number.toInt64?, if_pos hbound, hvalue]

/-- What is read of a fraction is a number, if not always the one that was written. -/
instance : Faithful TransferRegistry.Number.Binary64 where
  reread x := (Number.ofBinary64 x).toBinary64?.getD x
  proper x := .num (Number.fraction_ofBinary64 x)
  fromJson?_toJson x := by
    show (Number.ofBinary64 x).toBinary64? = _
    obtain ⟨y, hy⟩ := Option.isSome_iff_exists.1 (Number.isSome_toBinary64? x)
    rw [hy, Option.getD_some]

instance {α : Type} [Codec α] [Faithful α] : Faithful (List α) where
  reread := List.map reread
  proper as := by
    refine .arr fun e he => ?_
    obtain ⟨a, -, rfl⟩ := List.mem_map.1 he
    exact Faithful.proper a
  fromJson?_toJson as := by
    show (as.map toJson).mapM fromJson? = some (as.map reread)
    induction as with
    | nil => rfl
    | cons a as ih =>
      rw [List.map_cons, List.mapM_cons, Faithful.fromJson?_toJson, ih]
      rfl

/-! ## Records -/

theorem proper_record {ms : List (String × Json)} (h : ∀ m ∈ ms, Proper m.2) : Proper (record ms) := by
  refine .obj fun member hmember => ?_
  obtain ⟨m, hm, rfl⟩ := List.mem_map.1 hmember
  exact h m hm

theorem valuesOf_record (name : String) (ms : List (String × Json)) (h : (ms.map (·.1)).Nodup) :
    valuesOf name (ms.map fun m => (some m.1, m.2)) = (ms.lookup name).toList := by
  induction ms with
  | nil => rfl
  | cons m ms ih =>
    obtain ⟨hm, hms⟩ := List.nodup_cons.1 h
    rw [valuesOf] at ih ⊢
    rw [List.map_cons, List.filterMap_cons, List.lookup_cons, ih hms]
    by_cases hname : m.1 = name
    · -- no later member has the name
      have hnone : ms.lookup name = none := by
        rw [List.lookup_eq_none_iff]
        intro other ho
        rw [bne_iff_ne]
        rintro rfl
        exact hm (List.mem_map.2 ⟨other, ho, hname.symm⟩)
      simp [hname, hnone]
    · have hother : (name == m.1) = false := beq_eq_false_iff_ne.2 (Ne.symm hname)
      simp [hname, hother]

theorem readMembers?_record {names : List String} {ms : List (String × Json)} (hnames : ms.map (·.1) = names)
    (h : names.Nodup) : readMembers? names (record ms) = some ⟨false, fun name => ms.lookup name⟩ := by
  subst hnames
  have hvalues := fun name => valuesOf_record name ms h
  have hsome : (ms.map fun m => ((some m.1 : Json.Text), m.2)).all (fun m => m.1.isSome) = true := by
    rw [List.all_map]
    exact List.all_eq_true.2 fun _ _ => rfl
  have honce : (ms.map (·.1)).all
      (fun name => (valuesOf name (ms.map fun m => ((some m.1 : Json.Text), m.2))).length ≤ 1) = true := by
    refine List.all_eq_true.2 fun name _ => ?_
    rw [hvalues]
    cases ms.lookup name <;> simp
  rw [record, readMembers?, hsome, honce]
  simp only [hvalues, Bool.and_self, if_true, Option.head?_toList]

/-- Of a record that was written, each member is found by its name. -/
theorem bind_readMembers? {β : Type} {names : List String} {ms : List (String × Json)} (f : Members → Option β)
    (hnames : ms.map (·.1) = names) (h : names.Nodup) :
    (readMembers? names (record ms)).bind f = f ⟨false, fun name => ms.lookup name⟩ := by
  rw [readMembers?_record hnames h, Option.bind_some]

section Members

variable {α : Type} [Codec α] [Faithful α] {ms : List (String × Json)} {name : String} {a : α}

theorem required_of_lookup (h : ms.lookup name = some (toJson a)) :
    Members.required ⟨false, fun name => ms.lookup name⟩ name fromJson? = some (reread a) := by
  show (ms.lookup name).bind fromJson? = _
  rw [h, Option.bind_some, Faithful.fromJson?_toJson]

theorem defaulted_of_lookup (h : ms.lookup name = some (toJson a)) (default : α) :
    Members.defaulted ⟨false, fun name => ms.lookup name⟩ name fromJson? default = some (reread a) := by
  simp only [Members.defaulted, h, Faithful.fromJson?_toJson]

end Members

end TransferRegistry.Json
