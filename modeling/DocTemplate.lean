import DocTemplate.Json.Reader
import DocTemplate.Tool.Service
import DocTemplate.Proofs.Record
import DocTemplate.Proofs.Reading
import DocTemplate.Proofs.Php
import DocTemplate.Proofs.Destructuring
import DocTemplate.Proofs.Script
import DocTemplate.Proofs.Spellings
import DocTemplate.Proofs.Defaults
import DocTemplate.Proofs.C
import DocTemplate.Proofs.Java
import DocTemplate.Proofs.Nesting
import DocTemplate.Proofs.Isolation
import DocTemplate.Proofs.TabStops
import DocTemplate.Proofs.Columns
import DocTemplate.Proofs.Layout
import DocTemplate.Proofs.Progress
import DocTemplate.Proofs.Completion
import DocTemplate.Proofs.Excerpts
import DocTemplate.Proofs.Dialects
import DocTemplate.Proofs.Sheet
import DocTemplate.Proofs.Validation
import DocTemplate.Proofs.Answers
import DocTemplate.Proofs.Assignment
import DocTemplate.Proofs.Nullable
import DocTemplate.Proofs.TypeTokens
import DocTemplate.Proofs.Patterns
import DocTemplate.Proofs.Sigils
import DocTemplate.Proofs.Anonymous
import DocTemplate.Proofs.Roles
