import Handbook.Answers.Assignment
import Handbook.Builtin.All
import Handbook.Composer.Basic
import Handbook.Proofs.Answers.Stages
import Handbook.Proofs.Builtin.Complete
import Handbook.Proofs.Builtin.Files
import Handbook.Proofs.Builtin.Roles
import Handbook.Proofs.Catalog
import Handbook.Proofs.Compatibility
import Handbook.Proofs.Composer.Blame
import Handbook.Proofs.Composer.Literal
import Handbook.Proofs.Composer.Reporting
import Handbook.Proofs.Console
import Handbook.Proofs.Registration
import Handbook.Proofs.Template.Arguments
import Handbook.Proofs.Template.Depth
import Handbook.Proofs.Template.Inclusion
import Handbook.Proofs.Template.Iteration
import Handbook.Proofs.Template.Recall
import Handbook.Proofs.Template.Registered
import Handbook.Proofs.Template.Repetition
import Handbook.Proofs.Template.Rewriting
import Handbook.Proofs.Template.Unclosed
import Handbook.Template.Workshop
