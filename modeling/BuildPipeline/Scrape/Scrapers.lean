import BuildPipeline.Scrape.Documents
import BuildPipeline.Scrape.Findings
import BuildPipeline.Scrape.Tests
import BuildPipeline.Settings.Basic

/-!
One scraper for each tool whose output is read.
-/
namespace BuildPipeline

structure Scraper (α : Type) where
  tool : String
  scrape : String → α

structure Scrapers where
  tests : Scraper TestCounts
  audit : Scraper Count
  lint : Scraper Scrape.LintCounts
  coverage : Scraper (Option CoverageSummary)

namespace Scrapers

def mocha : Scraper TestCounts := ⟨"mocha", Scrape.mocha⟩

def jest : Scraper TestCounts := ⟨"jest", Scrape.jest⟩

def standard : Scrapers where
  tests := mocha
  audit := ⟨"npm audit", Scrape.vulnerabilities⟩
  lint := ⟨"eslint", Scrape.lintFindings⟩
  coverage := ⟨"istanbul", Scrape.coverageSummary⟩

def ofSettings (s : Settings) : Scrapers :=
  { standard with
    tests := match s.testReporter with
      | .mocha => mocha
      | .jest => jest }

end Scrapers
end BuildPipeline
