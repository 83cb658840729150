import StreamGate.Gateway.Serve

/-!
# Steps of a request

What the steps of a request come to, one after another.  `Access.Gives` says
that a step goes well; `Access.run_bind_of_gives` goes on to the next one.
-/

namespace StreamGate.Access

variable {World Handle File α β : Type}

theorem run_bind (act : Access World α) (f : α → Access World β) (g : Gateway World) :
    (act >>= f).run g = match act.run g with
      | (.ok a, g') => (f a).run g'
      | (.error e, g') => (.error e, g') := by
  simp only [ExceptT.run, bind, ExceptT.bind, ExceptT.mk, StateT.bind, ExceptT.bindCont]
  cases act g with
  | mk answer g' => cases answer <;> rfl

/-- A step goes well: it yields a value and leaves the gateway as `g'`. -/
def Gives (act : Access World α) (g : Gateway World) (a : α) (g' : Gateway World) : Prop :=
  act.run g = (.ok a, g')

theorem run_bind_of_gives {act : Access World α} {g g' : Gateway World} {a : α}
    (h : act.Gives g a g') (f : α → Access World β) : (act >>= f).run g = (f a).run g' := by
  rw [run_bind, show act.run g = _ from h]

theorem gives_get (g : Gateway World) : Gives (get : Access World (Gateway World)) g g g := rfl

theorem gives_lookUp {f : World → Except Failure α × World} {g : Gateway World} {a : α} {w : World}
    (h : f g.world = (.ok a, w)) : (lookUp f).Gives g a (g.withWorld w) := by
  unfold Gives lookUp
  rw [run_bind_of_gives (gives_get g), h]
  rfl

theorem gives_require {e : AccessError} {g : Gateway World} {a : α} :
    (require e (some a)).Gives g a g := rfl

/-- What was looked up and is required. -/
theorem gives_find {f : World → Except Failure (Option α) × World} {g : Gateway World} {a : α}
    {w : World} (e : AccessError) (h : f g.world = (.ok (some a), w)) :
    Gives (do require e (← lookUp f)) g a (g.withWorld w) := by
  unfold Gives
  rw [run_bind_of_gives (gives_lookUp h)]
  exact gives_require

section Checks

variable {svc : Services World Handle File} {g : Gateway World} {w : World}

theorem gives_resolveGrant {token : String} {grant : Grant}
    (h : svc.catalog.grant? token g.world = (.ok (some grant), w)) :
    (resolveGrant svc token).Gives g grant (g.withWorld w) :=
  gives_find _ h

theorem gives_loadRepo {repoId : String} {repo : Repo}
    (h : svc.catalog.repo? repoId g.world = (.ok (some repo), w)) :
    (loadRepo svc repoId).Gives g repo (g.withWorld w) :=
  gives_find _ h

theorem gives_checkObject {repo : Repo} {objectId : String}
    (h : svc.catalog.objectExists repo.storeRef objectId g.world = (.ok true, w)) :
    (checkObject svc repo objectId).Gives g () (g.withWorld w) := by
  unfold Gives checkObject
  rw [run_bind_of_gives (gives_lookUp h)]
  rfl

theorem gives_loadManifest {repo : Repo} {objectId : String} {manifest : Manifest}
    (h : svc.catalog.manifest? repo.storeRef objectId g.world = (.ok (some manifest), w)) :
    (loadManifest svc repo objectId).Gives g manifest (g.withWorld w) :=
  gives_find _ h

end Checks

end StreamGate.Access
