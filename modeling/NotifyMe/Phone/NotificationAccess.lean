import NotifyMe.Text.Split

/-!
# `Phone.NotificationAccess` — whether the service may listen

`isNotificationServiceEnabled` of `MainActivity.java`. The system keeps the components that may listen to the
notifications in one string of the secure settings; the activity takes it apart by itself and looks for a component
of its own package.

The string is joined with `:`, and a component is its package, a `/` and its class. A class inside of the package
can be written short, with the package left out (`ComponentName.Spelled`). `enabled_iff`: however each of them is
spelled, the activity finds what the system has written.
-/

namespace NotifyMe

/-- `android.content.ComponentName`. -/
structure ComponentName where
  packageName : List Char
  className   : List Char
  deriving DecidableEq, Repr

namespace ComponentName

/-- `ComponentName.unflattenFromString`: null without a `/`, or with nothing behind it. -/
def unflattenFromString (str : List Char) : Option ComponentName :=
  let sep := str.idxOf '/'
  if sep + 1 ≥ str.length then none
  else
    let pkg := str.take sep
    let cls := str.drop (sep + 1)
    some ⟨pkg, if cls.head? = some '.' then pkg ++ cls else cls⟩

/-- `flattenToString`. -/
def flattenToString (cn : ComponentName) : List Char := cn.packageName ++ '/' :: cn.className

/-- `flattenToShortString`: a class inside of the package is written without it. -/
def flattenToShortString (cn : ComponentName) : List Char :=
  if (cn.packageName ++ ['.']).isPrefixOf cn.className then
    cn.packageName ++ '/' :: cn.className.drop cn.packageName.length
  else cn.flattenToString

/-- The two names can be told apart in the string, and the string from its neighbours. -/
structure Valid (cn : ComponentName) : Prop where
  package_slash : '/' ∉ cn.packageName
  package_colon : ':' ∉ cn.packageName
  class_colon   : ':' ∉ cn.className
  class_ne      : cn.className ≠ []
  /-- A class name begins with a letter. -/
  class_dot     : cn.className.head? ≠ some '.'

/-- The two ways in which a component is written. -/
inductive Spelled (cn : ComponentName) : List Char → Prop where
  | full  : Spelled cn cn.flattenToString
  | short : Spelled cn cn.flattenToShortString

section Unflatten

variable {cn : ComponentName}

theorem unflatten_eq {pkg cls : List Char} (hslash : '/' ∉ pkg) (hne : cls ≠ []) :
    unflattenFromString (pkg ++ '/' :: cls) =
      some ⟨pkg, if cls.head? = some '.' then pkg ++ cls else cls⟩ := by
  have hsep : (pkg ++ '/' :: cls).idxOf '/' = pkg.length := by
    rw [List.idxOf_append_of_notMem hslash]
    simp
  have hlen : ¬ (pkg.length + 1 ≥ (pkg ++ '/' :: cls).length) := by
    have hpos := List.length_pos_iff.mpr hne
    simp only [List.length_append, List.length_cons]
    omega
  have htake : (pkg ++ '/' :: cls).take pkg.length = pkg := by simp
  have hdrop : (pkg ++ '/' :: cls).drop (pkg.length + 1) = cls := by simp
  simp only [unflattenFromString, hsep, if_neg hlen, htake, hdrop]

/-- **The component is read back**, however it is spelled. -/
theorem unflatten_spelled (h : cn.Valid) {str : List Char} (hs : cn.Spelled str) :
    unflattenFromString str = some cn := by
  have hfull : unflattenFromString cn.flattenToString = some cn := by
    rw [flattenToString, unflatten_eq h.package_slash h.class_ne, if_neg h.class_dot]
  cases hs with
  | full => exact hfull
  | short =>
      unfold flattenToShortString
      split
      · rename_i hpre
        obtain ⟨rest, hrest⟩ := List.isPrefixOf_iff_prefix.mp hpre
        have hcls : cn.className = cn.packageName ++ '.' :: rest := by simpa using hrest.symm
        have hdrop : cn.className.drop cn.packageName.length = '.' :: rest := by rw [hcls]; simp
        rw [hdrop, unflatten_eq h.package_slash (by simp), if_pos (by simp), ← hcls]
      · exact hfull

/-- A spelled component has a `/` and no `:`. -/
theorem Spelled.colon (h : cn.Valid) {str : List Char} (hs : cn.Spelled str) : ':' ∉ str ∧ str ≠ [] := by
  have hfull : ':' ∉ cn.flattenToString ∧ cn.flattenToString ≠ [] := by
    simp [flattenToString, h.package_colon, h.class_colon]
  cases hs with
  | full => exact hfull
  | short =>
      unfold flattenToShortString
      split
      · have hdrop : ':' ∉ cn.className.drop cn.packageName.length :=
          fun hm => h.class_colon (List.mem_of_mem_drop hm)
        simp [h.package_colon, hdrop]
      · exact hfull

end Unflatten

end ComponentName

/-- `isNotificationServiceEnabled`. `flat` is what `Settings.Secure.getString` returns: null if there is no entry. -/
def isNotificationServiceEnabled (pkgName : List Char) (flat : Option (List Char)) : Bool :=
  match flat with
  | none      => false
  | some flat =>
      !flat.isEmpty && (split ':' flat).any fun name =>
        match ComponentName.unflattenFromString name with
        | some cn => cn.packageName == pkgName
        | none    => false

namespace NotificationAccess

/-- The entry of a list of components, each spelled in one of the two ways. -/
inductive Entry : List ComponentName → List (List Char) → Prop where
  | nil : Entry [] []
  | cons {cn str cns strs} (hv : cn.Valid) (hs : cn.Spelled str) (h : Entry cns strs) :
      Entry (cn :: cns) (str :: strs)

theorem Entry.colon {cns : List ComponentName} {strs : List (List Char)} (h : Entry cns strs) :
    ∀ str ∈ strs, ':' ∉ str ∧ str ≠ [] := by
  induction h with
  | nil => simp
  | cons hv hs _ ih => exact List.forall_mem_cons.mpr ⟨hs.colon hv, ih⟩

theorem Entry.any {cns : List ComponentName} {strs : List (List Char)} (h : Entry cns strs)
    (pkgName : List Char) :
    (strs.any fun name =>
        match ComponentName.unflattenFromString name with
        | some cn => cn.packageName == pkgName
        | none    => false) = cns.any (·.packageName == pkgName) := by
  induction h with
  | nil => rfl
  | cons hv hs _ ih => simp only [List.any_cons, ComponentName.unflatten_spelled hv hs, ih]

/-- **What the system has written is found**: the activity takes the service for enabled just when a component of its
    package is among those that may listen. -/
theorem enabled_iff {cns : List ComponentName} {strs : List (List Char)} (h : Entry cns strs)
    (pkgName : List Char) :
    isNotificationServiceEnabled pkgName (some ([':'].intercalate strs)) = true ↔
      ∃ cn ∈ cns, cn.packageName = pkgName := by
  have hcolon := h.colon
  cases h with
  | nil => simp [isNotificationServiceEnabled]
  | @cons cn str cns strs hv hs hrest =>
      have hentry : Entry (cn :: cns) (str :: strs) := .cons hv hs hrest
      have hlast : ∃ p ∈ (str :: strs).getLast?, p ≠ [] := by
        refine ⟨_, List.getLast?_eq_getLast_of_ne_nil (List.cons_ne_nil str strs), ?_⟩
        exact (hcolon _ (List.getLast_mem (List.cons_ne_nil str strs))).2
      have hsplit : split ':' ([':'].intercalate (str :: strs)) = str :: strs :=
        split_intercalate (fun p hp => (hcolon p hp).1) hlast
      have hne : ([':'].intercalate (str :: strs)).isEmpty = false := by
        have hstr := (hcolon str (by simp)).2
        cases strs <;> simp [hstr]
      rw [isNotificationServiceEnabled, hne, hsplit, hentry.any]
      simp

/-- Another listener, written short, and the service. -/
def bothEnabled : List ComponentName :=
  [⟨"com.other".toList, "com.other.Listener".toList⟩,
   ⟨"vishal.vaf.notifyme".toList, "vishal.vaf.notifyme.services.NotificationListener".toList⟩]

theorem bothEnabled_valid : ∀ cn ∈ bothEnabled, cn.Valid := by
  intro cn hcn
  simp only [bothEnabled, List.mem_cons, List.not_mem_nil, or_false] at hcn
  rcases hcn with rfl | rfl
  · exact ⟨by decide, by decide, by decide, by decide, by decide⟩
  · exact ⟨by decide, by decide, by decide, by decide, by decide⟩

theorem bothEnabled_entry : Entry bothEnabled
    ["com.other/.Listener".toList,
     "vishal.vaf.notifyme/vishal.vaf.notifyme.services.NotificationListener".toList] :=
  .cons (bothEnabled_valid _ (by simp [bothEnabled])) .short
    (.cons (bothEnabled_valid _ (by simp [bothEnabled])) .full .nil)

theorem bothEnabled_iff :
    isNotificationServiceEnabled "vishal.vaf.notifyme".toList (some ([':'].intercalate
      ["com.other/.Listener".toList,
       "vishal.vaf.notifyme/vishal.vaf.notifyme.services.NotificationListener".toList])) = true ↔
      ∃ cn ∈ bothEnabled, cn.packageName = "vishal.vaf.notifyme".toList :=
  enabled_iff bothEnabled_entry _

end NotificationAccess
end NotifyMe
