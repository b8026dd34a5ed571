import Mathlib.Data.List.AList
import Mathlib.Data.Nat.Digits
import Mathlib.Data.Finset.Basic

/-! The standard-library vocabulary the endpoint is written in: `std::unordered_map` as a
finite map whose iteration order is left open, and `std::to_string` on the `size_t` call
counter, whose decimal rendering is injective. -/
namespace WebSocketSH

/-- `std::unordered_map` keyed by `K`. The entry order of the association list stands for
the unspecified hash order; every statement about a table goes through `lookup`. -/
abbrev Table (K V : Type) := AList (fun _ : K => V)

namespace Table
variable {K V : Type} [DecidableEq K] {m : Table K V} {k k' : K}

/-- The range-for loops that update every value of a map in place. -/
def mapValues (f : V → V) (m : Table K V) : Table K V :=
  ⟨m.entries.map fun x => ⟨x.1, f x.2⟩, by
    simpa [List.NodupKeys, List.keys, Function.comp_def] using m.nodupKeys⟩

/-- `operator[]`, which binds an absent key to a default-constructed `fresh` value, followed
by the assignments the caller makes through the returned reference. -/
def update (m : Table K V) (k : K) (fresh : V) (f : V → V) : Table K V :=
  m.insert k (f ((m.lookup k).getD fresh))

/-- Erases the collected keys one at a time, as `notify_connection_closed` does. -/
def eraseAll (keys : List K) (m : Table K V) : Table K V :=
  keys.foldl (fun m k => m.erase k) m

@[simp] theorem lookup_mapValues (f : V → V) : (m.mapValues f).lookup k = (m.lookup k).map f :=
  List.dlookup_map₂ (l := m.entries) (f := fun _ => f) k

@[simp] theorem lookup_update_self (fresh : V) (f : V → V) :
    (m.update k fresh f).lookup k = some (f ((m.lookup k).getD fresh)) :=
  AList.lookup_insert m

@[simp] theorem lookup_update_ne (fresh : V) (f : V → V) (other : k' ≠ k) :
    (m.update k fresh f).lookup k' = m.lookup k' :=
  AList.lookup_insert_ne other

theorem lookup_update (fresh : V) (f : V → V) :
    (m.update k fresh f).lookup k' =
      if k' = k then some (f ((m.lookup k).getD fresh)) else m.lookup k' := by
  split
  · subst k'; exact lookup_update_self fresh f
  · exact lookup_update_ne fresh f ‹_›

@[simp] theorem lookup_eraseAll (keys : List K) :
    (eraseAll keys m).lookup k = if k ∈ keys then none else m.lookup k := by
  induction keys generalizing m with
  | nil => simp [eraseAll]
  | cons key rest ih =>
    simp only [eraseAll, List.foldl_cons] at ih ⊢
    rw [ih]
    by_cases same : k = key
    · subst same
      simp [AList.lookup_erase]
    · simp [same, AList.lookup_erase_ne same]

end Table

/-- Some event of the history satisfies `start`, judged against the events before it,
and every later event satisfies `keep`: "the last such event, not undone since". -/
def SinceLast {α : Type} (start : List α → α → Prop) (keep : α → Prop) (events : List α) : Prop :=
  ∃ before event after, events = before ++ event :: after ∧ start before event ∧ ∀ later ∈ after, keep later

section SinceLast
variable {α : Type} {start : List α → α → Prop} {keep : α → Prop} {events : List α} {last : α}

theorem not_sinceLast_nil : ¬ SinceLast start keep [] := by
  rintro ⟨before, event, after, split, -⟩
  simp at split

theorem sinceLast_concat :
    SinceLast start keep (events ++ [last]) ↔
      start events last ∨ (SinceLast start keep events ∧ keep last) := by
  constructor
  · rintro ⟨before, event, after, split, started, kept⟩
    rcases List.eq_nil_or_concat after with rfl | ⟨after', final, rfl⟩
    · obtain ⟨rfl, same⟩ := List.append_inj' split rfl
      obtain rfl : last = event := by simpa using same
      exact .inl started
    · rw [List.concat_eq_append, ← List.cons_append, ← List.append_assoc] at split
      obtain ⟨rfl, same⟩ := List.append_inj' split rfl
      obtain rfl : last = final := by simpa using same
      exact .inr ⟨⟨before, event, after', rfl, started, fun y mem => kept y (by simp [mem])⟩,
        kept last (by simp)⟩
  · rintro (started | ⟨⟨before, event, after, rfl, started, kept⟩, final⟩)
    · exact ⟨events, last, [], rfl, started, by simp⟩
    · refine ⟨before, event, after ++ [last], by simp, started, ?_⟩
      simpa [or_imp, forall_and] using ⟨kept, final⟩

end SinceLast

/-- Runs a step function that may have no defined result over a list of inputs; `none`
once a step has none. -/
def execute {σ α : Type} (step : σ → α → Option σ) : σ → List α → Option σ
  | s, [] => some s
  | s, input :: rest => (step s input).bind fun next => execute step next rest

section Execute
variable {σ α : Type} {step : σ → α → Option σ}

theorem execute_append (s : σ) (first second : List α) :
    execute step s (first ++ second) = (execute step s first).bind (execute step · second) := by
  induction first generalizing s with
  | nil => rfl
  | cons input rest ih =>
    simp only [List.cons_append, execute]
    cases step s input <;> simp [ih]

theorem execute_concat (s : σ) (inputs : List α) (last : α) :
    execute step s (inputs ++ [last]) = (execute step s inputs).bind (step · last) := by
  rw [execute_append]
  cases execute step s inputs with
  | none => rfl
  | some t => simp only [Option.some_bind, execute]; cases step t last <;> rfl

/-- Induction over the prefixes of a run: a property of the inputs so far and the state
they lead to that holds initially and survives every step holds after the whole run. -/
theorem execute_induction {start : σ} {P : List α → σ → Prop} (base : P [] start)
    (preserved : ∀ inputs s input s', execute step start inputs = some s → P inputs s →
      step s input = some s' → P (inputs ++ [input]) s')
    {inputs : List α} {s : σ} (ran : execute step start inputs = some s) : P inputs s := by
  induction inputs using List.reverseRecOn generalizing s with
  | nil => cases ran; exact base
  | append_singleton inputs input ih =>
    rw [execute_concat] at ran
    obtain ⟨t, prior, last⟩ := Option.bind_eq_some.mp ran
    exact preserved inputs t input s prior (ih prior) last

end Execute

section Lists
variable {α : Type} {l m : List α} {s : Nat} {x y : α}

theorem getElem?_append_of_some (found : l[s]? = some x) : (l ++ m)[s]? = some x := by
  rw [List.getElem?_append_left (List.getElem?_eq_some_iff.mp found).1, found]

theorem exists_getElem?_append {P : α → Prop} (found : ∃ x, l[s]? = some x ∧ P x) :
    ∃ x, (l ++ m)[s]? = some x ∧ P x :=
  found.imp fun _ ⟨recorded, holds⟩ => ⟨getElem?_append_of_some recorded, holds⟩

theorem getElem?_concat_eq_some (found : (l ++ [x])[s]? = some y) :
    l[s]? = some y ∨ s = l.length ∧ y = x := by
  rcases Nat.lt_or_ge s l.length with before | after
  · exact .inl (by rwa [List.getElem?_append_left before] at found)
  · obtain rfl : s = l.length := by
      have inside := (List.getElem?_eq_some_iff.mp found).1
      simp only [List.length_append, List.length_singleton] at inside
      omega
    rw [List.getElem?_concat_length, Option.some.injEq] at found
    exact .inr ⟨rfl, found.symm⟩

/-- A list whose entries satisfying `p` all sit at one index has at most one of them. -/
theorem countP_le_one_of_index {p : α → Bool} {i : Nat}
    (only : ∀ j x, l[j]? = some x → p x = true → j = i) : l.countP p ≤ 1 := by
  induction l generalizing i with
  | nil => simp
  | cons a rest ih =>
    have later : ∀ j x, rest[j]? = some x → p x = true → j + 1 = i := fun j x found holds =>
      only (j + 1) x (by simpa using found) holds
    rw [List.countP_cons]
    by_cases first : p a
    · have none : rest.countP p = 0 := List.countP_eq_zero.mpr fun x member holds => by
        obtain ⟨j, found⟩ := List.mem_iff_getElem?.mp member
        have := later j x found holds
        have := only 0 a (List.getElem?_cons_zero ..) first
        omega
      simp [first, none]
    · have := ih (i := i - 1) fun j x found holds => by have := later j x found holds; omega
      simpa [first] using this

end Lists

/-- `size_t` is 64 bits wide: `_next_service_call_id++` wraps modulo this. -/
def sizeModulus : Nat := 2 ^ 64

/-- Reads a decimal rendering back, most significant digit first. -/
def decimalValue (digits : List Char) : Nat :=
  Nat.ofDigits 10 (digits.reverse.map fun d => d.toNat - 48)

theorem digitChar_value {m : Nat} (small : m < 10) : (Nat.digitChar m).toNat - 48 = m := by
  interval_cases m <;> rfl

theorem decimalValue_cons (d : Char) (ds : List Char) :
    decimalValue (d :: ds) = decimalValue ds + 10 ^ ds.length * (d.toNat - 48) := by
  simp [decimalValue, Nat.ofDigits_append]

theorem decimalValue_toDigitsCore (fuel n : Nat) (ds : List Char) (enough : n < fuel) :
    decimalValue (Nat.toDigitsCore 10 fuel n ds) = n * 10 ^ ds.length + decimalValue ds := by
  induction fuel generalizing n ds with
  | zero => omega
  | succ fuel ih =>
    have digit := digitChar_value (Nat.mod_lt n (by norm_num : 10 > 0))
    simp only [Nat.toDigitsCore]
    split
    · rw [decimalValue_cons, digit, Nat.mod_eq_of_lt (by omega : n < 10)]
      ring
    · rw [ih (n / 10) _ (by omega), decimalValue_cons, digit, List.length_cons, pow_succ]
      conv_rhs => rw [← Nat.div_add_mod n 10]
      ring

theorem decimalValue_toString (n : Nat) : decimalValue (toString n).data = n := by
  simpa using decimalValue_toDigitsCore (n + 1) n [] (Nat.lt_succ_self n)

/-- `std::to_string` never renders two counter values alike. -/
theorem toString_injective : Function.Injective (toString : Nat → String) := fun a b same => by
  rw [← decimalValue_toString a, same, decimalValue_toString]

end WebSocketSH
