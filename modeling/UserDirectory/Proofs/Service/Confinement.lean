import UserDirectory.Proofs.Dn
import UserDirectory.Service

/-!
# UserDirectory — searches keep to their base

An entry that is found is compared with the base of the request alone, and the base of the request
with the name that is served. That is enough to keep all answers below the name that is served,
since what is within a base within a name is within the name.

## Results

* `Directory.answerSearch_code_iff` — which requests are answered with success.
* `Directory.answerSearch_confined` — what is found, and how it depends on the base.
-/

namespace UserDirectory.Directory

open Text

/-- The entries that a search finds below a base, in the form for clients. -/
def foundBelow (d : Directory) (base : String) (filter : Filter) : List SearchEntry :=
  ((d.snapshot.search filter).filter fun e => isWithin e.dn base).map (·.toSearchEntry)

theorem answerSearch_of_ok {d : Directory} {request : SearchRequest} {f : Filter}
    (hf : Filter.parse request.filter = .ok f)
    (hbase : isWithin request.base d.config.baseDn = true) :
    d.answerSearch request = ⟨d.foundBelow request.base f, ⟨.success, "", "", []⟩⟩ := by
  rw [answerSearch, hf]
  simp only
  rw [if_pos hbase]
  rfl

/-- A request is answered with success if its filter can be read and its base is served. -/
theorem answerSearch_code_iff {d : Directory} {request : SearchRequest} :
    (d.answerSearch request).result.code = .success ↔
      (∃ f, Filter.parse request.filter = .ok f) ∧
        isWithin request.base d.config.baseDn = true := by
  constructor
  · intro h
    rw [answerSearch] at h
    split at h
    · contradiction
    · next f hf =>
      split at h
      · next hbase => exact ⟨⟨f, hf⟩, hbase⟩
      · contradiction
  · rintro ⟨⟨f, hf⟩, hbase⟩
    rw [answerSearch_of_ok hf hbase]

/-- A request that is not answered with success finds nothing. -/
theorem answerSearch_entries_of_ne {d : Directory} {request : SearchRequest}
    (h : (d.answerSearch request).result.code ≠ .success) :
    (d.answerSearch request).entries = [] := by
  rw [answerSearch] at h ⊢
  split
  · rfl
  · next f hf =>
    split
    · next hbase =>
      rw [hf] at h
      simp only [if_pos hbase] at h
      exact absurd rfl h
    · rfl

theorem mem_foundBelow_iff {d : Directory} {base : String} {f : Filter} {e : SearchEntry} :
    e ∈ d.foundBelow base f ↔
      ∃ e' ∈ d.snapshot.search f, isWithin e'.dn base = true ∧ e'.toSearchEntry = e := by
  simp only [foundBelow, List.mem_map, List.mem_filter, and_assoc]

/-- What is found below a base within another one is the part of what is found below the other one
that lies within the base. -/
theorem foundBelow_of_isWithin {inner outer : String} (h : isWithin inner outer = true)
    (d : Directory) (f : Filter) :
    d.foundBelow inner f = (d.foundBelow outer f).filter fun e => isWithin e.dn inner := by
  have hboth : ∀ e : Entry,
      isWithin e.dn inner = (isWithin e.toSearchEntry.dn inner && isWithin e.dn outer) := by
    intro e
    show isWithin e.dn inner = (isWithin e.dn inner && isWithin e.dn outer)
    cases hinner : isWithin e.dn inner with
    | false => rfl
    | true => rw [isWithin_trans hinner h, Bool.and_self]
  rw [foundBelow, foundBelow, List.filter_map, List.filter_filter]
  congr 2
  funext e
  exact hboth e

theorem number_eq_zero_iff {code : ResultCode} : code.number = 0 ↔ code = .success := by
  cases code <;> simp [ResultCode.number]

theorem code_of_mem_entries {d : Directory} {request : SearchRequest} {e : SearchEntry}
    (h : e ∈ (d.answerSearch request).entries) :
    (d.answerSearch request).result.code = .success := by
  by_contra hcode
  rw [answerSearch_entries_of_ne hcode] at h
  exact List.not_mem_nil h

theorem answerSearch_of_code {d : Directory} {request : SearchRequest}
    (h : (d.answerSearch request).result.code = .success) :
    ∃ f, Filter.parse request.filter = .ok f ∧ isWithin request.base d.config.baseDn = true ∧
      (d.answerSearch request).entries = d.foundBelow request.base f := by
  obtain ⟨⟨f, hf⟩, hbase⟩ := answerSearch_code_iff.mp h
  refine ⟨f, hf, hbase, ?_⟩
  rw [answerSearch_of_ok hf hbase]

/-- What a search finds are entries of the snapshot that lie within the base of the request, which
is served. -/
theorem exists_of_mem_entries {d : Directory} {request : SearchRequest} {e : SearchEntry}
    (h : e ∈ (d.answerSearch request).entries) :
    ∃ e' ∈ d.snapshot.entries, e'.toSearchEntry = e ∧ isWithin e.dn request.base = true ∧
      isWithin request.base d.config.baseDn = true := by
  obtain ⟨f, -, hbase, hentries⟩ := answerSearch_of_code (code_of_mem_entries h)
  rw [hentries] at h
  obtain ⟨e', he', hwithin, rfl⟩ := mem_foundBelow_iff.mp h
  exact ⟨e', (List.mem_filter.mp he').1, rfl, hwithin, hbase⟩

/-- All that a search finds lies within the name that is served, although it is compared with the
base of the request alone. To search below a base within the base of another search gives the part
of its answer that lies within this base, in the same order. Only a search that succeeds finds
anything, and it finds the entries for the filter that lie within its base. To be within does not
depend on letter case, and everything is within the empty base. -/
theorem answerSearch_confined (d : Directory) :
    (∀ request, ∀ e ∈ (d.answerSearch request).entries, isWithin e.dn d.config.baseDn = true) ∧
    (∀ (outer inner : SearchRequest) (f : Filter), Filter.parse outer.filter = .ok f →
      inner.filter = outer.filter → isWithin outer.base d.config.baseDn = true →
      isWithin inner.base outer.base = true →
      (d.answerSearch outer).result.code.number = 0 ∧
        (d.answerSearch inner).result.code.number = 0 ∧
        (d.answerSearch inner).entries =
          (d.answerSearch outer).entries.filter fun e => isWithin e.dn inner.base) ∧
    (∀ request, (d.answerSearch request).entries ≠ [] →
      (d.answerSearch request).result.code.number = 0) ∧
    (∀ request, (d.answerSearch request).result.code.number = 0 →
      ∃ found, d.snapshot.query request.filter = .ok found ∧
        (d.answerSearch request).entries =
          (found.filter fun e => isWithin e.dn request.base).map (·.toSearchEntry)) ∧
    (∀ dn dn' base base', lowerCase dn = lowerCase dn' → lowerCase base = lowerCase base' →
      isWithin dn base = isWithin dn' base') ∧
    ∀ dn, isWithin dn "" = true := by
  refine ⟨?_, ?_, ?_, ?_, fun _ _ _ _ => isWithin_congr, isWithin_empty⟩
  · intro request e he
    obtain ⟨-, -, -, hwithin, hbase⟩ := exists_of_mem_entries he
    exact isWithin_trans hwithin hbase
  · -- both bases are allowed, and below the inner one there is nothing that is not below the outer
    -- one
    intro outer inner f hf hfilter houter hinner
    have hf' : Filter.parse inner.filter = .ok f := by rw [hfilter, hf]
    rw [answerSearch_of_ok hf houter, answerSearch_of_ok hf' (isWithin_trans hinner houter)]
    exact ⟨rfl, rfl, foundBelow_of_isWithin hinner d f⟩
  · intro request hne
    obtain ⟨e, he⟩ := List.exists_mem_of_ne_nil _ hne
    exact number_eq_zero_iff.mpr (code_of_mem_entries he)
  · intro request hcode
    obtain ⟨f, hf, -, hentries⟩ := answerSearch_of_code (number_eq_zero_iff.mp hcode)
    refine ⟨d.snapshot.search f, ?_, hentries⟩
    rw [Snapshot.query, hf]
    rfl

/-- Two entries in different parts of the tree, searched from the top and from one of the parts. -/
theorem answerSearch_confined_users :
    let bob : Entry := ⟨"cn=bob,OU=Users,dc=example,dc=org", [⟨"uid", ["bob"]⟩]⟩
    let admins : Entry := ⟨"cn=admins,ou=groups,dc=example,dc=org", [⟨"uid", ["admins"]⟩]⟩
    let d : Directory :=
      ⟨⟨"dc=example,dc=org", "users.yaml", {}⟩, ⟨[bob, admins], 1, some 0⟩⟩
    let outer : SearchRequest := ⟨"", "DC=example,DC=org", "(!(sn=*))"⟩
    let inner : SearchRequest := ⟨"", "ou=users,dc=example,dc=org", "(!(sn=*))"⟩
    bob.toSearchEntry ∈ (d.answerSearch inner).entries ∧
      (d.answerSearch inner).entries =
        ((d.answerSearch outer).entries.filter fun e => isWithin e.dn inner.base) ∧
      isWithin bob.toSearchEntry.dn d.config.baseDn = true ∧
      (d.answerSearch inner).result.code.number = 0 := by
  intro bob admins d outer inner
  obtain ⟨hconfined, hinner, hsuccess, -⟩ := answerSearch_confined d
  have hmem : bob.toSearchEntry ∈ (d.answerSearch inner).entries := by decide +kernel
  have hf : Filter.parse outer.filter = .ok (.negation (.equals "sn" "*")) := by decide +kernel
  obtain ⟨-, -, hentries⟩ := hinner outer inner _ hf rfl (by decide +kernel) (by decide +kernel)
  exact ⟨hmem, hentries, hconfined inner _ hmem, hsuccess inner (List.ne_nil_of_mem hmem)⟩

end UserDirectory.Directory
