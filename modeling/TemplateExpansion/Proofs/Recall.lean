/-
# Values that are stored, recalled and repeated

An inert value without a bar is one operand, and one pass stores it and reads it back (`sweep_set_get`) or
repeats it (`sweep_replicate_ofNat`).  An escaped value without a closing brace is inert (`inert_escape`), and
copies of it are the value's copies escaped (`escape_flatten_replicate`).  So no brace opens in what the first
pass leaves, and what is left to do is to drop the escapes: the value comes back, whatever stands at its ends
(`expand_escaped_value`).  Only where no text can be so large the repetition is aborted.
-/
import TemplateExpansion.Proofs.Numerals
import TemplateExpansion.Proofs.Repetition

namespace TemplateExpansion

open Text

/-! ## 1. Escaped values -/

theorem Text.inert_escape {v : Text} (h : '}' ∉ v) : Inert v.escape :=
  ⟨flat_escape false v, fun hmem => h ((mem_escape (by decide)).1 hmem)⟩

theorem Text.escape_ne_nil {v : Text} (h : v ≠ []) : v.escape ≠ [] := by
  intro hnil
  have hunescape := unescape_escape v
  rw [hnil] at hunescape
  exact h hunescape.symm

/-- **Copies of an escaped text** are the escaped copies of the text. -/
theorem Text.escape_flatten_replicate (n : Nat) (v : Text) :
    escape (List.replicate n v).flatten = (List.replicate n v.escape).flatten := by
  induction n with
  | zero => rfl
  | succ n ih =>
    rw [List.replicate_succ, List.flatten_cons, escape_append, ih, List.replicate_succ, List.flatten_cons]

/-! ## 2. The expressions -/

section

variable (settings : Settings) (fetch? : Option Fetcher) (ctx : Context)

/-- A value is stored, and nothing is yielded. -/
theorem evaluate_set {key value : Text} (hkey : key ≠ []) (hvalue : value ≠ []) :
    evaluate (.builtins settings fetch?) (Builtin.set.applied [key, value]) ctx =
      ⟨[], ctx.set key value, .executed⟩ := by
  have hop : (Registry.builtins settings fetch?).get? (Builtin.opcode .set) = some .set :=
    Registry.get?_builtins settings fetch? (fun _ => .ok []) (by decide)
  have hnone : Operation.set.firstFailure (Builtin.set.applied [key, value]) ctx = none := by
    refine Operation.firstFailure_eq_none.2 (List.forall_mem_singleton.2 ?_)
    have hk : key.isEmpty = false := List.isEmpty_eq_false_iff.2 hkey
    have hv : value.isEmpty = false := List.isEmpty_eq_false_iff.2 hvalue
    show (!key.isEmpty && !value.isEmpty) = true
    rw [hk, hv]
    rfl
  exact evaluate_of_firstFailure_eq_none hop hnone

/-- The value under a key is yielded. -/
theorem evaluate_get (key : Text) :
    evaluate (.builtins settings fetch?) (Builtin.get.applied [key]) ctx =
      ⟨(ctx.get? key).getD [], ctx, .executed⟩ := by
  have hop : (Registry.builtins settings fetch?).get? (Builtin.opcode .get) = some .get :=
    Registry.get?_builtins settings fetch? (fun _ => .ok []) (by decide)
  have hnone : Operation.get.firstFailure (Builtin.get.applied [key]) ctx = none := rfl
  exact evaluate_of_firstFailure_eq_none hop hnone

/-- A text is repeated as often as the digits of a number say, within the limits, if a text can be so large. -/
theorem evaluate?_replicate_ofNat (unit : Text) {n : Nat} (hcount : n ≤ settings.maxRepeat)
    (hsigned : n ≤ Decimal.maxSigned) (hsize : unit.byteSize * n ≤ settings.maxRepeatBytes)
    (hbytes : settings.maxRepeatBytes ≤ Decimal.maxUnsigned) :
    evaluate? (.builtins settings fetch?) (Builtin.replicate.applied [unit, Decimal.ofNat n]) ctx =
      if unit.byteSize * n ≤ maxByteSize then some ⟨(List.replicate n unit).flatten, ctx, .executed⟩
      else none := by
  have hop : (Registry.builtins settings fetch?).get? (Builtin.opcode .replicate) =
      some (.replicate settings.maxRepeat settings.maxRepeatBytes) :=
    Registry.get?_builtins settings fetch? (fun _ => .ok []) (by decide)
  have hread : Decimal.signed (trim (Decimal.ofNat n)) = .ok (n : Int) := by
    rw [Decimal.trim_ofNat, Decimal.signed_ofNat hsigned]
  have hrepeat : Operation.repeatWithin settings.maxRepeat settings.maxRepeatBytes
      ((Builtin.replicate.applied [unit, Decimal.ofNat n]).operand 0) n = .ok (Operation.replicateText? unit n) :=
    Operation.repeatWithin_of_limits hbytes (Int.natCast_nonneg n) (Int.ofNat_le.2 hcount) hsize
  rw [evaluate?_of_signed (e := Builtin.replicate.applied [unit, Decimal.ofNat n]) hop rfl ctx hread, hrepeat,
    Operation.replicateText?, Operation.replicateText_eq]
  by_cases hfits : unit.byteSize * n ≤ maxByteSize
  · simp only [if_pos hfits, Option.map_some]
  · simp only [if_neg hfits, Option.map_none]

/-! ## 3. The first pass -/

variable (args : List Text)

/-- **What is stored is read back.**  A pass over a value that is stored and then read leaves the value. -/
theorem sweep?_set_get {key value : Text} (hkey : key ≠ []) (hvalue : value ≠ [])
    (hk : Inert key ∧ '|' ∉ key) (hv : Inert value ∧ '|' ∉ value) :
    ∃ s, sweep? (.builtins settings fetch?) (.fresh args)
        ((Builtin.set.applied [key, value]).source ++ (Builtin.get.applied [key]).source) = some s ∧
      s.text = value ∧ s.context.errors = [] := by
  have hset : (Builtin.set.applied [key, value]).Written :=
    Builtin.written_applied _ (List.cons_ne_nil _ _)
      (List.forall_mem_cons.2 ⟨hk, List.forall_mem_singleton.2 hv⟩)
  have hget : (Builtin.get.applied [key]).Written :=
    Builtin.written_applied _ (List.cons_ne_nil _ _) (List.forall_mem_singleton.2 hk)
  have hfresh : (Context.fresh args).beginPass = .fresh args := rfl
  have hstore : evaluate (.builtins settings fetch?) (Builtin.set.applied [key, value]) (.fresh args) =
      ⟨[], (Context.fresh args).set key value, .executed⟩ := evaluate_set settings fetch? _ hkey hvalue
  have hstored : ((Context.fresh args).set key value).get? key = some value := by
    rw [Context.get?, Context.set, Store.get?_set, if_pos rfl]
  have hopcodes : Builtin.opcode .set ≠ Builtin.opcode .replicate ∧
      Builtin.opcode .get ≠ Builtin.opcode .replicate := by decide
  have hsilent := congrArg Evaluation.text hstore
  obtain ⟨htext, hcontext⟩ := sweep_source_source hget (.builtins settings fetch?) (.fresh args) hset hsilent
  rw [hfresh, hstore, evaluate_get] at htext hcontext
  have hpass := sweep?_source_source hget (.builtins settings fetch?) (.fresh args) hset hsilent
  rw [Registry.aborts_builtins_eq_false settings fetch? hopcodes.1,
    Registry.aborts_builtins_eq_false settings fetch? hopcodes.2] at hpass
  refine ⟨_, hpass, ?_, ?_⟩
  · rw [htext, hstored, Option.getD_some]
  · rw [hcontext]
    rfl

/-- **What is repeated is written again and again**, if a text can be so large. -/
theorem sweep?_replicate_ofNat {unit : Text} (hu : Inert unit ∧ '|' ∉ unit) {n : Nat}
    (hcount : n ≤ settings.maxRepeat) (hsigned : n ≤ Decimal.maxSigned)
    (hsize : unit.byteSize * n ≤ settings.maxRepeatBytes)
    (hbytes : settings.maxRepeatBytes ≤ Decimal.maxUnsigned) :
    (unit.byteSize * n ≤ maxByteSize → ∃ s, sweep? (.builtins settings fetch?) (.fresh args)
          (Builtin.replicate.applied [unit, Decimal.ofNat n]).source = some s ∧
        s.text = (List.replicate n unit).flatten ∧ s.context.errors = []) ∧
      (maxByteSize < unit.byteSize * n → sweep? (.builtins settings fetch?) (.fresh args)
        (Builtin.replicate.applied [unit, Decimal.ofNat n]).source = none) := by
  have hdigits : Inert (Decimal.ofNat n) ∧ '|' ∉ Decimal.ofNat n :=
    ⟨inert_of_not_mem (Decimal.not_mem_ofNat rfl n) (Decimal.not_mem_ofNat rfl n), Decimal.not_mem_ofNat rfl n⟩
  have hrepeat : (Builtin.replicate.applied [unit, Decimal.ofNat n]).Written :=
    Builtin.written_applied _ (List.cons_ne_nil _ _)
      (List.forall_mem_cons.2 ⟨hu, List.forall_mem_singleton.2 hdigits⟩)
  have hfresh : (Context.fresh args).beginPass = .fresh args := rfl
  have hevaluate := evaluate?_replicate_ofNat settings fetch? (.fresh args) unit hcount hsigned hsize hbytes
  rw [sweep?_source hrepeat, hfresh]
  refine ⟨fun hfits => ?_, fun hlarge => ?_⟩
  · rw [if_pos hfits] at hevaluate
    obtain ⟨haborts, heq⟩ := evaluate?_eq_some_iff.1 hevaluate
    obtain ⟨htext, hcontext⟩ := sweep_source hrepeat (.builtins settings fetch?) (.fresh args)
    rw [hfresh, ← heq] at htext hcontext
    refine ⟨_, if_neg (by rw [haborts]; exact Bool.false_ne_true), htext, ?_⟩
    rw [hcontext]
    rfl
  · rw [if_neg (Nat.not_le.2 hlarge)] at hevaluate
    exact if_pos (evaluate?_eq_none_iff.1 hevaluate)

end

/-! ## 4. The value comes back -/

/-- If the first pass leaves an escaped value and an empty log, the result is the value. -/
theorem expand?_of_sweep?_escape {registry : Registry} {args : List Text} {source value : Text} {s : Swept}
    (hs : sweep? registry (.fresh args) source = some s) (htext : s.text = value.escape)
    (herrors : s.context.errors = []) {limit : Nat} (hlimit : 2 ≤ limit) :
    expand? registry limit args source = some (.ok ⟨value, []⟩) := by
  have hflat : Flat false s.text := htext ▸ flat_escape false value
  rw [expand?_of_flat_sweep hs hflat hlimit, htext, herrors, unescape_escape]

/-- **An escaped value survives storage, recall and repetition.**  Take a value that is not empty and has
neither a closing brace nor a bar, whatever else it has at its ends or inside, and write it escaped.  Under
every limit that allows two passes, nothing is logged, and

* what is stored under a key without braces and bars and then read back is the value;
* what is repeated within the limits is the value, as often as the number says, if a text can be as large as the
  escaped copies are.

If no text can, the expansion is aborted. -/
theorem expand_escaped_value {settings : Settings} (hbytes : settings.maxRepeatBytes ≤ Decimal.maxUnsigned)
    (fetch? : Option Fetcher) (args : List Text) {limit : Nat} (hlimit : 2 ≤ limit) {value : Text}
    (hvalue : value ≠ []) (hclose : '}' ∉ value) (hbar : '|' ∉ value) :
    (∀ key : Text, key ≠ [] → '{' ∉ key ∧ '}' ∉ key ∧ '|' ∉ key →
        expand? (.builtins settings fetch?) limit args
            (Cut.braced ("set:".toList ++ key ++ '|' :: value.escape) ++ Cut.braced ("get:".toList ++ key)) =
          some (.ok ⟨value, []⟩)) ∧
      ∀ n, n ≤ settings.maxRepeat → n ≤ Decimal.maxSigned → n * value.escape.byteSize ≤ settings.maxRepeatBytes →
        expand? (.builtins settings fetch?) limit args
            (Cut.braced ("repeat:".toList ++ value.escape ++ '|' :: Decimal.ofNat n)) =
          if n * value.escape.byteSize ≤ maxByteSize then some (.ok ⟨(List.replicate n value).flatten, []⟩)
          else none := by
  have hescaped : Inert value.escape ∧ '|' ∉ value.escape :=
    ⟨inert_escape hclose, fun h => hbar ((mem_escape (by decide)).1 h)⟩
  refine ⟨?_, ?_⟩
  · rintro key hkey ⟨hopen', hclose', hbar'⟩
    have hsource : Cut.braced ("set:".toList ++ key ++ '|' :: value.escape) ++
        Cut.braced ("get:".toList ++ key) =
          (Builtin.set.applied [key, value.escape]).source ++ (Builtin.get.applied [key]).source := by
      rw [Builtin.source_applied_two, Builtin.source_applied_one]
      rfl
    obtain ⟨s, hs, htext, herrors⟩ := sweep?_set_get settings fetch? args hkey (escape_ne_nil hvalue)
      ⟨inert_of_not_mem hopen' hclose', hbar'⟩ hescaped
    rw [hsource]
    exact expand?_of_sweep?_escape hs htext herrors hlimit
  · intro n hcount hsigned hsize
    have hsource : Cut.braced ("repeat:".toList ++ value.escape ++ '|' :: Decimal.ofNat n) =
        (Builtin.replicate.applied [value.escape, Decimal.ofNat n]).source := by
      rw [Builtin.source_applied_two]
      rfl
    rw [Nat.mul_comm] at hsize
    obtain ⟨hfits, hlarge⟩ := sweep?_replicate_ofNat settings fetch? args hescaped hcount hsigned hsize hbytes
    rw [hsource, Nat.mul_comm]
    split
    · rename_i h
      obtain ⟨s, hs, htext, herrors⟩ := hfits h
      rw [← escape_flatten_replicate] at htext
      exact expand?_of_sweep?_escape hs htext herrors hlimit
    · rename_i h
      exact expand?_of_aborted (hlarge (Nat.not_le.1 h)) (Nat.le_of_succ_le hlimit)

/-- A value with backslashes before a brace and at its end, an expression and a colon; and, under the largest
limits, more copies of a value than a text can hold. -/
theorem expand_escaped_value_backslashes :
    let wide := { Settings.standard with
      maxRepeat := Decimal.maxUnsigned, maxRepeatBytes := Decimal.maxUnsigned }
    expand? (.builtins .standard none) 2 []
          "\x7bset:k\\|\\\\\x7b\\\x7bget:\\\x7d\x7bget:k\\\x7d".toList =
        some (.ok ⟨"\\\x7b\x7bget:\\".toList, []⟩) ∧
      expand? (.builtins .standard none) 2 [] "\x7brepeat:\\\\\x7b\\\x7bget:\\|2\x7d".toList =
        some (.ok ⟨"\\\x7b\x7bget:\\\\\x7b\x7bget:\\".toList, []⟩) ∧
      expand? (.builtins wide none) 2 [] "\x7brepeat:ab|4611686018427387904\x7d".toList = none := by
  intro wide
  have hbytes : Settings.standard.maxRepeatBytes ≤ Decimal.maxUnsigned := by decide
  have hwide : wide.maxRepeatBytes ≤ Decimal.maxUnsigned := Nat.le_refl _
  have hvalue : "\\\x7b\x7bget:\\".toList ≠ [] := by decide
  have hab : "ab".toList ≠ [] := by decide
  obtain ⟨hkey, hcount⟩ :=
    expand_escaped_value hbytes none [] (Nat.le_refl 2) hvalue (by decide) (by decide)
  obtain ⟨-, hlarge⟩ := expand_escaped_value hwide none [] (Nat.le_refl 2) hab (by decide) (by decide)
  refine ⟨hkey "k\\".toList (by decide) (by decide), ?_, ?_⟩
  · exact (hcount 2 (by decide) (by decide) (by decide)).trans (if_pos (by decide))
  · have hnone := (hlarge (2 ^ 62) (by decide) (by decide) (by decide)).trans (if_neg (by decide))
    have hsource : Cut.braced ("repeat:".toList ++ escape "ab".toList ++ '|' :: Decimal.ofNat (2 ^ 62)) =
        "\x7brepeat:ab|4611686018427387904\x7d".toList := by decide
    exact hsource ▸ hnone

end TemplateExpansion
