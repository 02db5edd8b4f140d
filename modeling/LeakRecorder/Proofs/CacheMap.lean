/-
# LeakRecorder.Proofs.CacheMap — the blob cache is a map

The cache spreads its entries over buckets by their hashes, compares hashes before
identifiers, inserts without looking and counts its entries apart from them. None
of this is seen from outside. `Mirrors` relates a cache to the list of the puts
that it has accepted: a key is found in the cache exactly as it is in the list,
which has it at most once, and the values of all buckets together are the values
of the list in some order. Every call keeps this (`Mirrors.serve`) and is answered
as the list says, however the entries are spread (`Mirrors.answer_congr`).

So a cache is a map from hash and identifier to a blob, for any number of buckets,
and each of its keys holds its blob once (`BlobCache.serves_map`).
-/
import LeakRecorder.Proofs.Settling
import LeakRecorder.Proofs.Tuning
import Mathlib.Data.List.Perm.Basic

set_option autoImplicit false

namespace LeakRecorder

/-! ## The values of a table -/

namespace Table

variable {κ α : Type}

/-- A new entry at the end of one bucket is one more entry of all. -/
theorem perm_flatten_modify {β : Type} (b : β) (lists : List (List β)) (index : Nat)
    (inside : index < lists.length) :
    (lists.modify index (· ++ [b])).flatten.Perm (b :: lists.flatten) := by
  induction lists generalizing index with
  | nil => exact absurd inside (Nat.not_lt_zero index)
  | cons first lists ih =>
      cases index with
      | zero =>
          rw [List.modify_zero_cons, List.flatten_cons, List.flatten_cons, List.append_assoc]
          exact List.perm_middle
      | succ index =>
          rw [List.modify_succ_cons, List.flatten_cons, List.flatten_cons]
          have later := ih index (Nat.lt_of_succ_lt_succ inside)
          exact (later.append_left first).trans List.perm_middle

theorem perm_values_insert (table : Table κ α) (key : κ) (value : α) :
    (table.insert key value).values.Perm (value :: table.values) := by
  have added := perm_flatten_modify ⟨table.keying.hash key, key, value⟩ table.buckets.toList
    (table.bucketIndex (table.keying.hash key)) (table.bucketIndex _).isLt
  rw [values, insert, Array.toList_modify]
  exact added.map (·.value)

end Table

namespace BlobCache

/-! ## Calls -/

/-- A call on a cache. -/
inductive Call where
  | put (key : TraceKey) (blob : BlobId)
  | get (key : TraceKey)
  | size
  | holds (blob : BlobId)

/-- What a call is answered. -/
inductive Answer where
  | stored
  | found (blob? : Option BlobId)
  | number (count : Nat)
  | refused (cause : Failure)

/-- What a put is answered. -/
def Answer.ofPut : Except Failure Unit → Answer
  | .ok () => .stored
  | .error cause => .refused cause

/-- What a lookup is answered. -/
def Answer.ofFound : Except Failure (Option BlobId) → Answer
  | .ok blob? => .found blob?
  | .error cause => .refused cause

/-- The cache after a call, and its answer. -/
def serve (cache : BlobCache) : Call → BlobCache × Answer
  | .put key blob =>
      let (cache, result) := cache.put key blob
      (cache, .ofPut result)
  | .get key => (cache, .ofFound (cache.get key))
  | .size => (cache, .number cache.size)
  | .holds blob => (cache, .number (cache.holds blob))

/-- The cache after calls. -/
def after (cache : BlobCache) (calls : List Call) : BlobCache :=
  calls.foldl (fun cache call => (cache.serve call).1) cache

/-- The answers to calls, in their order. -/
def answers (cache : BlobCache) : List Call → List Answer
  | [] => []
  | call :: calls => (cache.serve call).2 :: (cache.serve call).1.answers calls

/-- What a call has put into the cache. -/
def accepted : Call → Answer → List (TraceKey × BlobId)
  | .put key blob, .stored => [(key, blob)]
  | _, _ => []

/-- What calls have put into the cache, in their order. -/
def puts (cache : BlobCache) : List Call → List (TraceKey × BlobId)
  | [] => []
  | call :: calls => accepted call (cache.serve call).2 ++ (cache.serve call).1.puts calls

section Puts

variable {cache next : BlobCache} {key : TraceKey} {blob : BlobId}

theorem serve_stored (stored : cache.put key blob = (next, .ok ())) :
    cache.serve (.put key blob) = (next, .stored) := by
  rw [serve, stored]
  rfl

theorem serve_refused {cause : Failure} (refused : cache.put key blob = (next, .error cause)) :
    cache.serve (.put key blob) = (next, .refused cause) := by
  rw [serve, refused]
  rfl

end Puts

theorem after_append (cache : BlobCache) (calls later : List Call) :
    cache.after (calls ++ later) = (cache.after calls).after later := List.foldl_append

theorem puts_append (cache : BlobCache) (calls later : List Call) :
    cache.puts (calls ++ later) = cache.puts calls ++ (cache.after calls).puts later := by
  induction calls generalizing cache with
  | nil => rfl
  | cons call calls ih =>
      rw [List.cons_append, puts, puts, ih, List.append_assoc]
      rfl

/-! ## The list that a cache stands for -/

/-- The cache holds what was put into it. -/
structure Mirrors (cache : BlobCache) (puts : List (TraceKey × BlobId)) : Prop where
  keying : cache.table.keying = TraceKey.keying
  once : (puts.map Prod.fst).Nodup
  lookup : ∀ key blob, cache.table.lookup key = some blob ↔ (key, blob) ∈ puts
  values : cache.table.values.Perm (puts.map Prod.snd)
  size : cache.size = puts.length

/-- A cache that was just made holds nothing. -/
theorem withBuckets_mirrors {count : UInt64} (few : count < allocationLimit) :
    ∃ cache, withBuckets count = .ok cache ∧ Mirrors cache [] := by
  obtain ⟨cache, made, values, size⟩ : ∃ cache, withBuckets count = .ok cache ∧
      cache.table.values = [] ∧ cache.size = 0 := by
    rw [withBuckets, Table.withBuckets, reserve_of_lt few]
    refine ⟨_, rfl, ?_, rfl⟩
    rw [Table.values, Array.toList_replicate, List.flatten_replicate_nil, List.map_nil]
  obtain ⟨keying, nothing⟩ := of_withBuckets made
  refine ⟨cache, made, keying, List.nodup_nil, fun key blob => ?_, ?_, size⟩
  · rw [nothing]
    exact iff_of_false (Option.some_ne_none blob).symm List.not_mem_nil
  · rw [values]
    exact .refl []

namespace Mirrors

variable {cache other : BlobCache} {puts : List (TraceKey × BlobId)} {key : TraceKey}

/-- A cache finds nothing exactly under the keys that were not put. -/
theorem lookup_none_iff (mirrors : Mirrors cache puts) :
    cache.table.lookup key = none ↔ key ∉ puts.map Prod.fst := by
  rw [Option.eq_none_iff_forall_ne_some, List.mem_map, not_exists]
  constructor
  · rintro none ⟨key, blob⟩ ⟨member, rfl⟩
    exact none blob ((mirrors.lookup key blob).mpr member)
  · intro absent blob hit
    exact absent (key, blob) ⟨(mirrors.lookup key blob).mp hit, rfl⟩

/-- A blob that is put under a new key stands behind the others. -/
theorem append {blob : BlobId} (mirrors : Mirrors cache puts) (named : key.id.isNone = false)
    (free : key ∉ puts.map Prod.fst) :
    ∃ after, cache.put key blob = (after, .ok ()) ∧ Mirrors after (puts ++ [(key, blob)]) := by
  have absent := mirrors.lookup_none_iff.mpr free
  have put := put_eq named absent blob
  obtain ⟨keying, found⟩ := put_ok mirrors.keying put
  refine ⟨_, put, keying, ?_, fun other held => ?_, ?_, ?_⟩
  · rw [List.map_append, List.map_singleton, ← List.concat_eq_append]
    exact mirrors.once.concat free
  · rw [found, List.mem_append, List.mem_singleton, Prod.mk.injEq]
    by_cases same : other = key
    · subst same
      have unput : (other, held) ∉ puts := fun member => free (List.mem_map.mpr ⟨_, member, rfl⟩)
      simp [unput, eq_comm]
    · simp [same, mirrors.lookup]
  · rw [List.map_append, List.map_singleton]
    have added := cache.table.perm_values_insert key blob
    exact added.trans ((mirrors.values.cons blob).trans (List.perm_append_singleton ..).symm)
  · rw [List.length_append, List.length_singleton, ← mirrors.size]
    rfl

/-- What can come of a put. -/
theorem put_cases (mirrors : Mirrors cache puts) (key : TraceKey) (blob : BlobId) :
    key.id.isNone = true ∧ cache.put key blob = (cache, .error (.violation .cacheWithoutTrace)) ∨
      key.id.isNone = false ∧ key ∈ puts.map Prod.fst ∧
        cache.put key blob = (cache, .error (.violation (.alreadyCached key))) ∨
      key.id.isNone = false ∧ key ∉ puts.map Prod.fst ∧
        ∃ after, cache.put key blob = (after, .ok ()) ∧ Mirrors after (puts ++ [(key, blob)]) := by
  cases named : key.id.isNone with
  | true =>
      refine .inl ⟨rfl, ?_⟩
      rw [put, BlobCache.named, if_pos named]
  | false =>
      right
      by_cases free : key ∈ puts.map Prod.fst
      · refine .inl ⟨rfl, free, ?_⟩
        have held : (cache.table.lookup key).isSome = true := by
          rw [Option.isSome_iff_ne_none]
          exact fun none => mirrors.lookup_none_iff.mp none free
        rw [put, BlobCache.named, named]
        rw [if_neg Bool.false_ne_true]
        dsimp only
        rw [if_pos held]
      · exact .inr ⟨rfl, free, mirrors.append named free⟩

theorem unchanged (mirrors : Mirrors cache puts) : Mirrors cache (puts ++ []) := by
  rw [List.append_nil]
  exact mirrors

/-- A call changes the list by what it has put, if it was answered that it has. -/
theorem serve (mirrors : Mirrors cache puts) (call : Call) :
    Mirrors (cache.serve call).1 (puts ++ accepted call (cache.serve call).2) := by
  cases call with
  | put key blob =>
      rcases mirrors.put_cases key blob with
        ⟨-, refused⟩ | ⟨-, -, refused⟩ | ⟨-, -, after, stored, mirrorsAfter⟩
      · rw [serve_refused refused]
        exact mirrors.unchanged
      · rw [serve_refused refused]
        exact mirrors.unchanged
      · rw [serve_stored stored]
        exact mirrorsAfter
  | get key => exact mirrors.unchanged
  | size => exact mirrors.unchanged
  | holds blob => exact mirrors.unchanged

theorem run (mirrors : Mirrors cache puts) (calls : List Call) :
    Mirrors (cache.after calls) (puts ++ cache.puts calls) := by
  induction calls generalizing cache puts with
  | nil =>
      rw [BlobCache.puts, List.append_nil]
      exact mirrors
  | cons call calls ih =>
      rw [BlobCache.puts, ← List.append_assoc]
      exact ih (mirrors.serve call)

/-- What a call is answered depends on the list alone. -/
theorem answer_congr (mirrors : Mirrors cache puts) (alike : Mirrors other puts) (call : Call) :
    (cache.serve call).2 = (other.serve call).2 := by
  have found (key : TraceKey) : cache.table.lookup key = other.table.lookup key :=
    Option.ext fun blob => (mirrors.lookup key blob).trans (alike.lookup key blob).symm
  cases call with
  | put key blob =>
      rcases put_congr blob (found key) with
        ⟨cause, refused, refusedAlike⟩ | ⟨after, afterAlike, stored, storedAlike⟩
      · rw [serve_refused refused, serve_refused refusedAlike]
      · rw [serve_stored stored, serve_stored storedAlike]
  | get key => exact congrArg Answer.ofFound (get_congr (found key))
  | size => exact congrArg Answer.number (mirrors.size.trans alike.size.symm)
  | holds blob =>
      exact congrArg Answer.number ((mirrors.values.trans alike.values.symm).count_eq blob)

theorem answers_congr (mirrors : Mirrors cache puts) (alike : Mirrors other puts)
    (calls : List Call) : cache.answers calls = other.answers calls := by
  induction calls generalizing cache other puts with
  | nil => rfl
  | cons call calls ih =>
      have same := mirrors.answer_congr alike call
      have next := mirrors.serve call
      have nextAlike := alike.serve call
      rw [← same] at nextAlike
      rw [answers, answers, same, ih next nextAlike]

end Mirrors

/-! ## The cache as a map -/

/-- The cache answers as the map from keys to blobs that the puts make up. -/
structure IsMapOf (cache : BlobCache) (puts : List (TraceKey × BlobId)) : Prop where
  once : (puts.map Prod.fst).Nodup
  get : ∀ key, key.id.isNone = false →
    ∃ blob?, cache.get key = .ok blob? ∧ ∀ blob, blob? = some blob ↔ (key, blob) ∈ puts
  refused_iff : ∀ key blob, (∃ cause, (cache.put key blob).2 = .error cause) ↔
    key.id.isNone = true ∨ key ∈ puts.map Prod.fst
  size : cache.size = puts.length
  handles : ∀ others blob,
    handles others blob (some cache) = others + puts.countP (·.2 == blob) ∧
      handles others blob none = others

theorem Mirrors.isMapOf {cache : BlobCache} {puts : List (TraceKey × BlobId)}
    (mirrors : Mirrors cache puts) : IsMapOf cache puts where
  once := mirrors.once
  get := fun key named => ⟨_, get_eq named, mirrors.lookup key⟩
  refused_iff := by
    intro key blob
    rcases mirrors.put_cases key blob with
      ⟨nameless, refused⟩ | ⟨-, held, refused⟩ | ⟨named, free, after, stored, -⟩
    · exact ⟨fun _ => .inl nameless, fun _ => ⟨_, congrArg Prod.snd refused⟩⟩
    · exact ⟨fun _ => .inr held, fun _ => ⟨_, congrArg Prod.snd refused⟩⟩
    · simp [named, free, stored]
  size := mirrors.size
  handles := by
    intro others blob
    refine ⟨?_, rfl⟩
    rw [BlobCache.handles, holds, mirrors.values.count_eq, List.count, List.countP_map]
    rfl

/-- **The cache is a map.** For any number of buckets that can be had, none included, and after any
calls, the cache answers as the map that the accepted puts make up: a key that names a trace is
found with the blob of its one put, or not at all, and a put is refused exactly for a key that names
none or is in the map. A refused put changes nothing. The size is the number of accepted puts, each
of which holds its blob once while there is the cache. With any other number of buckets every call
is answered the same. -/
theorem serves_map {count other : UInt64} (few : count < allocationLimit)
    (fewOther : other < allocationLimit) :
    ∃ fresh second, withBuckets count = .ok fresh ∧ withBuckets other = .ok second ∧
      ∀ calls, IsMapOf (fresh.after calls) (fresh.puts calls) ∧
        (∀ key blob cause, ((fresh.after calls).put key blob).2 = .error cause →
          fresh.after (calls ++ [.put key blob]) = fresh.after calls ∧
            fresh.puts (calls ++ [.put key blob]) = fresh.puts calls) ∧
        second.answers calls = fresh.answers calls := by
  obtain ⟨fresh, made, mirrors⟩ := withBuckets_mirrors few
  obtain ⟨second, madeSecond, mirrorsSecond⟩ := withBuckets_mirrors fewOther
  refine ⟨fresh, second, made, madeSecond, fun calls => ⟨(mirrors.run calls).isMapOf, ?_,
    mirrorsSecond.answers_congr mirrors calls⟩⟩
  intro key blob cause refused
  rw [after_append, puts_append]
  have answered : (fresh.after calls).put key blob = (_, .error cause) := Prod.ext rfl refused
  have served := serve_refused answered
  rw [put_refused answered] at served
  refine ⟨congrArg Prod.fst served, ?_⟩
  rw [puts, served]
  exact List.append_nil _

/-- Two keys of one hash and one of another hash share the one bucket there is, two keys of other
hashes share an identifier, and one blob is put under two keys. -/
theorem serves_map_in_one_bucket :
    ∃ fresh, withBuckets 0 = .ok fresh ∧
      let cache := fresh.after [.put ⟨7, ⟨1⟩⟩ ⟨0⟩, .put ⟨7, ⟨2⟩⟩ ⟨1⟩, .put ⟨8, ⟨1⟩⟩ ⟨0⟩,
        .put ⟨7, ⟨1⟩⟩ ⟨1⟩, .put ⟨9, ⟨0⟩⟩ ⟨1⟩]
      cache.get ⟨7, ⟨1⟩⟩ = .ok (some ⟨0⟩) ∧ cache.get ⟨8, ⟨2⟩⟩ = .ok none ∧
        cache.size = 3 ∧ handles 1 ⟨0⟩ (some cache) = 3 := by
  obtain ⟨fresh, second, made, -, served⟩ := @serves_map 0 16 (by decide) (by decide)
  refine ⟨fresh, made, ?_⟩
  cases made
  obtain ⟨map, -, -⟩ := served [.put ⟨7, ⟨1⟩⟩ ⟨0⟩, .put ⟨7, ⟨2⟩⟩ ⟨1⟩, .put ⟨8, ⟨1⟩⟩ ⟨0⟩,
    .put ⟨7, ⟨1⟩⟩ ⟨1⟩, .put ⟨9, ⟨0⟩⟩ ⟨1⟩]
  obtain ⟨first, got, first_iff⟩ := map.get ⟨7, ⟨1⟩⟩ rfl
  obtain ⟨other, gotOther, other_iff⟩ := map.get ⟨8, ⟨2⟩⟩ rfl
  refine ⟨?_, ?_, map.size, (map.handles 1 ⟨0⟩).1⟩
  · rw [← (first_iff ⟨0⟩).mpr (.head _)]
    exact got
  · have absent : other = none := by
      refine Option.eq_none_iff_forall_ne_some.mpr fun blob hit => ?_
      have member := List.mem_map_of_mem (f := Prod.fst) ((other_iff blob).mp hit)
      have keys : (⟨8, ⟨2⟩⟩ : TraceKey) ∉ [⟨7, ⟨1⟩⟩, ⟨7, ⟨2⟩⟩, ⟨8, ⟨1⟩⟩] := by decide
      exact keys member
    rw [gotOther, absent]

end BlobCache

end LeakRecorder
