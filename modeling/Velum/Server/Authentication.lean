import Velum.Server.Admission

/-!
# Exact authentication

The loop that configures an authenticator keeps a map by principal and the
length of the secrets.  After any front part of the list the two describe
exactly the credentials of that part, which agree in length and repeat neither
a secret nor a principal.  So the scan of `authenticate`, which keeps the last
match, has at most one match to keep.
-/

namespace Velum.Server

open Foundation

/-- Credentials that one authenticator can hold together. -/
structure Consistent (credentials : List PrincipalCredential) : Prop where
  sameLength : ∀ first ∈ credentials, ∀ second ∈ credentials,
    first.secret.length = second.secret.length
  secrets : (credentials.map (·.secret)).Nodup
  principals : (credentials.map (·.principal)).Nodup

theorem Consistent.nil : Consistent [] where
  sameLength := by simp
  secrets := List.nodup_nil
  principals := List.nodup_nil

theorem Consistent.sublist {part credentials : List PrincipalCredential}
    (consistent : Consistent credentials)
    (sublist : part.Sublist credentials) : Consistent part where
  sameLength first firstMember second secondMember :=
    consistent.sameLength first (sublist.subset firstMember) second
      (sublist.subset secondMember)
  secrets := consistent.secrets.sublist (sublist.map _)
  principals := consistent.principals.sublist (sublist.map _)

/-- A credential that may be added to the configured ones. -/
structure Joins (seen : List PrincipalCredential)
    (credential : PrincipalCredential) : Prop where
  length : ∀ other ∈ seen, other.secret.length = credential.secret.length
  secret : ∀ other ∈ seen, other.secret ≠ credential.secret
  principal : ∀ other ∈ seen, other.principal ≠ credential.principal

theorem nodup_map_append_singleton {Item Value : Type} (value : Item → Value)
    (items : List Item) (item : Item) :
    ((items ++ [item]).map value).Nodup ↔
      (items.map value).Nodup ∧ ∀ other ∈ items, value other ≠ value item := by
  simp [List.nodup_append]

theorem consistent_append_singleton {seen : List PrincipalCredential}
    {credential : PrincipalCredential} :
    Consistent (seen ++ [credential]) ↔
      Consistent seen ∧ Joins seen credential := by
  constructor
  · intro consistent
    obtain ⟨secrets, otherSecret⟩ :=
      (nodup_map_append_singleton _ _ _).mp consistent.secrets
    obtain ⟨principals, otherPrincipal⟩ :=
      (nodup_map_append_singleton _ _ _).mp consistent.principals
    have added : credential ∈ seen ++ [credential] := by simp
    refine ⟨⟨?_, secrets, principals⟩, ⟨?_, otherSecret, otherPrincipal⟩⟩
    · intro first firstMember second secondMember
      exact consistent.sameLength first (List.mem_append_left _ firstMember)
        second (List.mem_append_left _ secondMember)
    · intro other member
      exact consistent.sameLength other (List.mem_append_left _ member)
        credential added
  · rintro ⟨consistent, joins⟩
    refine ⟨?_, (nodup_map_append_singleton _ _ _).mpr
        ⟨consistent.secrets, joins.secret⟩,
      (nodup_map_append_singleton _ _ _).mpr
        ⟨consistent.principals, joins.principal⟩⟩
    intro first firstMember second secondMember
    rcases List.mem_append.mp firstMember with firstSide | firstSide
    · rcases List.mem_append.mp secondMember with secondSide | secondSide
      · exact consistent.sameLength first firstSide second secondSide
      · rw [List.mem_singleton.mp secondSide]
        exact joins.length first firstSide
    · rw [List.mem_singleton.mp firstSide]
      rcases List.mem_append.mp secondMember with secondSide | secondSide
      · exact (joins.length second secondSide).symm
      · rw [List.mem_singleton.mp secondSide]

theorem Consistent.of_append {seen rest : List PrincipalCredential}
    (consistent : Consistent (seen ++ rest)) : Consistent seen :=
  consistent.sublist (List.sublist_append_left seen rest)

namespace Authenticator

/-- The authenticator holds the credentials of a list and nothing else. -/
structure Holds (configured : Authenticator)
    (seen : List PrincipalCredential) : Prop where
  consistent : Consistent seen
  credentials : ∀ principal secret,
    (principal, secret) ∈ configured.credentials.entries ↔
      ∃ credential ∈ seen, credential.principal = principal ∧
        credential.secret = secret
  secretLength : ∀ length, configured.secretLength = some length ↔
    ∃ credential ∈ seen, credential.secret.length = length

theorem holds_empty : Holds {} [] where
  consistent := .nil
  credentials := by
    intro principal secret
    simp [OrderedMap.empty]
  secretLength := by simp

section Step

variable {configured : Authenticator} {seen : List PrincipalCredential}
  {credential : PrincipalCredential}

/-- The three checks of the loop pass exactly for a credential that joins. -/
theorem Holds.joins_iff (holds : configured.Holds seen) :
    Joins seen credential ↔
      ¬configured.secretLength.any (· ≠ credential.secret.length) ∧
        ¬configured.credentials.entries.any (·.2 = credential.secret) ∧
        ¬configured.credentials.contains credential.principal := by
  have length : ¬configured.secretLength.any
        (· ≠ credential.secret.length) ↔
      ∀ other ∈ seen, other.secret.length = credential.secret.length := by
    constructor
    · intro passes other member
      have known := (holds.secretLength _).mpr ⟨other, member, rfl⟩
      simpa [known] using passes
    · intro same
      cases known : configured.secretLength with
      | none => simp
      | some length =>
          obtain ⟨other, member, rfl⟩ := (holds.secretLength _).mp known
          simp [same other member]
  have secret : ¬configured.credentials.entries.any
        (·.2 = credential.secret) ↔
      ∀ other ∈ seen, other.secret ≠ credential.secret := by
    simp only [List.any_eq_true, decide_eq_true_eq, not_exists, not_and]
    constructor
    · intro passes other member
      exact passes (other.principal, other.secret)
        ((holds.credentials _ _).mpr ⟨other, member, rfl, rfl⟩)
    · intro different entry member
      obtain ⟨other, known, _, same⟩ := (holds.credentials _ _).mp member
      rw [← same]
      exact different other known
  have principal : ¬configured.credentials.contains credential.principal ↔
      ∀ other ∈ seen, other.principal ≠ credential.principal := by
    rw [OrderedMap.contains, Option.not_isSome_iff_eq_none,
      OrderedMap.get?_eq_none_iff]
    constructor
    · intro passes other member
      exact passes (other.principal, other.secret)
        ((holds.credentials _ _).mpr ⟨other, member, rfl, rfl⟩)
    · intro different entry member
      obtain ⟨other, known, same, _⟩ := (holds.credentials _ _).mp member
      rw [← same]
      exact different other known
  rw [length, secret, principal]
  constructor
  · intro joins
    exact ⟨joins.length, joins.secret, joins.principal⟩
  · rintro ⟨sameLength, secrets, principals⟩
    exact ⟨sameLength, secrets, principals⟩

theorem Holds.insert (holds : configured.Holds seen)
    (joins : Joins seen credential) :
    Holds
      { credentials := configured.credentials.insert credential.principal
          credential.secret
        secretLength := some credential.secret.length }
      (seen ++ [credential]) where
  consistent := consistent_append_singleton.mpr ⟨holds.consistent, joins⟩
  credentials := by
    intro principal secret
    rw [OrderedMap.mem_insert_iff, holds.credentials]
    simp only [List.mem_append, List.mem_singleton, Prod.mk.injEq]
    constructor
    · rintro (⟨rfl, rfl⟩ | ⟨⟨other, member, same⟩, _⟩)
      · exact ⟨credential, .inr rfl, rfl, rfl⟩
      · exact ⟨other, .inl member, same⟩
    · rintro ⟨other, member | rfl, rfl, rfl⟩
      · exact .inr ⟨⟨other, member, rfl, rfl⟩, joins.principal other member⟩
      · exact .inl ⟨rfl, rfl⟩
  secretLength := by
    intro length
    rw [Option.some.injEq]
    constructor
    · rintro rfl
      exact ⟨credential, by simp, rfl⟩
    · rintro ⟨other, member, rfl⟩
      rcases List.mem_append.mp member with known | added
      · exact (joins.length other known).symm
      · rw [List.mem_singleton.mp added]

end Step

/-- The loop succeeds exactly when the credentials seen and still to come are
consistent, and it then holds all of them. -/
theorem configure_spec {configured : Authenticator}
    {seen : List PrincipalCredential} (rest : List PrincipalCredential)
    (holds : configured.Holds seen) :
    ((∃ result, configure configured rest = .ok result) ↔
        Consistent (seen ++ rest)) ∧
      ∀ result, configure configured rest = .ok result →
        result.Holds (seen ++ rest) := by
  induction rest generalizing configured seen with
  | nil =>
      rw [List.append_nil]
      refine ⟨⟨fun _ => holds.consistent, fun _ => ⟨configured, rfl⟩⟩, ?_⟩
      intro result configures
      cases configures
      exact holds
  | cons credential rest induction =>
      have split : seen ++ credential :: rest =
          (seen ++ [credential]) ++ rest := by simp
      rw [split]
      by_cases joins : Joins seen credential
      · obtain ⟨length, secret, principal⟩ := holds.joins_iff.mp joins
        rw [configure, if_neg length, if_neg secret, if_neg principal]
        exact induction (holds.insert joins)
      · have refused : ∀ result,
            configure configured (credential :: rest) ≠ .ok result := by
          intro result configures
          rw [configure] at configures
          split at configures
          · cases configures
          · split at configures
            · cases configures
            · split at configures
              · cases configures
              · exact joins (holds.joins_iff.mpr
                  ⟨by assumption, by assumption, by assumption⟩)
        constructor
        · constructor
          · rintro ⟨result, configures⟩
            exact absurd configures (refused result)
          · intro consistent
            exact absurd
              (consistent_append_singleton.mp consistent.of_append).2 joins
        · intro result configures
          exact absurd configures (refused result)

/-! ## The scan -/

/-- A scan that keeps the last match keeps the only one. -/
theorem foldl_keep_eq_some_iff {Key Value : Type} [DecidableEq Value]
    {entries : List (Key × Value)} (wanted : Value) (key : Key)
    (unique : ∀ first ∈ entries, ∀ second ∈ entries, first.2 = second.2 →
      first.1 = second.1) :
    entries.foldl (fun found entry =>
        if entry.2 = wanted then some entry.1 else found) none = some key ↔
      (key, wanted) ∈ entries := by
  induction entries using List.reverseRecOn with
  | nil => simp
  | append_singleton entries entry induction =>
      have earlier := induction fun first firstMember second secondMember =>
        unique first (List.mem_append_left _ firstMember)
          second (List.mem_append_left _ secondMember)
      rw [List.foldl_append, List.foldl_cons, List.foldl_nil]
      obtain ⟨last, value⟩ := entry
      by_cases same : value = wanted
      · subst same
        rw [if_pos rfl, Option.some.injEq]
        constructor
        · rintro rfl
          simp
        · intro member
          exact unique (last, value) (by simp) (key, value) member rfl
      · rw [if_neg same, earlier]
        simp [Ne.symm same]

theorem Holds.unique {configured : Authenticator}
    {seen : List PrincipalCredential} (holds : configured.Holds seen) :
    ∀ first ∈ configured.credentials.entries,
      ∀ second ∈ configured.credentials.entries, first.2 = second.2 →
        first.1 = second.1 := by
  intro first firstMember second secondMember same
  obtain ⟨one, oneMember, onePrincipal, oneSecret⟩ :=
    (holds.credentials _ _).mp firstMember
  obtain ⟨other, otherMember, otherPrincipal, otherSecret⟩ :=
    (holds.credentials _ _).mp secondMember
  have secrets : one.secret = other.secret := by
    rw [oneSecret, otherSecret, same]
  have equal : one = other :=
    List.inj_on_of_nodup_map holds.consistent.secrets oneMember otherMember
      secrets
  rw [← onePrincipal, ← otherPrincipal, equal]

theorem Holds.authenticate_eq_ok_iff {configured : Authenticator}
    {seen : List PrincipalCredential} (holds : configured.Holds seen)
    {secret : List UInt8} {principal : PrincipalId} :
    configured.authenticate secret = .ok principal ↔
      ∃ credential ∈ seen, credential.principal = principal ∧
        credential.secret = secret := by
  have scan := foldl_keep_eq_some_iff secret principal holds.unique
  rw [holds.credentials] at scan
  rw [← scan]
  unfold authenticate
  split
  next short =>
      constructor
      · intro accepted
        cases accepted
      · intro found
        obtain ⟨credential, member, _, rfl⟩ := scan.mp found
        exact absurd ((holds.secretLength _).mpr ⟨credential, member, rfl⟩)
          short
  next =>
      dsimp only
      split
      next missing => simp [missing]
      next other found => simp [found]

theorem authenticate_error {configured : Authenticator}
    {secret : List UInt8}
    (refused : ∀ principal, configured.authenticate secret ≠ .ok principal) :
    configured.authenticate secret = .error .invalidCredential := by
  unfold authenticate at refused ⊢
  split
  · rfl
  next long =>
      rw [if_neg long] at refused
      dsimp only at refused ⊢
      split
      · rfl
      next principal found =>
          rw [found] at refused
          exact absurd rfl (refused principal)

/-- An authenticator is made exactly from consistent credentials.  It then
accepts the secrets of the list, each for its own principal, and refuses every
other byte string. -/
theorem authentication_exact (credentials : List PrincipalCredential) :
    ((∃ authenticator, Authenticator.new credentials = .ok authenticator) ↔
        Consistent credentials) ∧
      ∀ authenticator, Authenticator.new credentials = .ok authenticator →
        ∀ secret,
          (∀ principal, authenticator.authenticate secret = .ok principal ↔
            ∃ credential ∈ credentials, credential.principal = principal ∧
              credential.secret = secret) ∧
          ((∀ credential ∈ credentials, credential.secret ≠ secret) →
            authenticator.authenticate secret = .error .invalidCredential) := by
  obtain ⟨succeeds, holdsAll⟩ := configure_spec credentials holds_empty
  refine ⟨succeeds, ?_⟩
  intro authenticator made secret
  have holds := holdsAll authenticator made
  refine ⟨fun principal => holds.authenticate_eq_ok_iff, ?_⟩
  intro absent
  apply authenticate_error
  intro principal accepted
  obtain ⟨credential, member, _, same⟩ :=
    holds.authenticate_eq_ok_iff.mp accepted
  exact absent credential member same

def sampleCredentials : List PrincipalCredential :=
  [⟨⟨7⟩, [1, 2, 3], rfl⟩, ⟨⟨2⟩, [1, 2, 4], rfl⟩]

/-- Two credentials are told apart, and a third secret is refused. -/
theorem authentication_exact_two :
    ∃ authenticator, Authenticator.new sampleCredentials = .ok authenticator ∧
      authenticator.authenticate [1, 2, 3] = .ok ⟨7⟩ ∧
      authenticator.authenticate [1, 2, 5] = .error .invalidCredential := by
  obtain ⟨succeeds, accepts⟩ := authentication_exact sampleCredentials
  obtain ⟨authenticator, made⟩ := succeeds.mpr
    ⟨by decide, by decide, by decide⟩
  refine ⟨authenticator, made, ?_, ?_⟩
  · exact ((accepts authenticator made _).1 _).mpr
      ⟨⟨⟨7⟩, [1, 2, 3], rfl⟩, by simp [sampleCredentials], rfl, rfl⟩
  · exact (accepts authenticator made _).2 (by decide)

end Authenticator

end Velum.Server
