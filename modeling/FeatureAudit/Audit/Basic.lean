import FeatureAudit.Audit.Detect
import FeatureAudit.Audit.Plan

/-! The audit of a page: what its styles show, then what its tags show, then what its scripts show. A
resource that could not be had shows nothing. -/
namespace FeatureAudit

/-- The report on a page, given the answers for the addresses to fetch. -/
def report (c : Catalog) (o : Options) (a : Artifacts) (answers : List Fetch.Answer) : Report :=
  let sources := o.sourcesOf a
  .ofFindings (detectInStyles (c.section .css) (sources.styles.filterMap (Source.text? answers)) ++
    detectInTags (c.section .html) a.distinctTags ++
    detectInScripts (c.section .js) (sources.scripts.filterMap (Source.text? answers)))

/-- Audits a page. -/
def audit [Monad m] (fetch : String → m Fetch.Answer) (processors : Nat) (c : Catalog) (o : Options)
    (a : Artifacts) : m Report := do
  let answers ← Fetch.fetchAll fetch (o.effectiveConcurrency processors) (o.plan a)
  return report c o a answers

end FeatureAudit
