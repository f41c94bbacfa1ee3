namespace SchemaScaffold.Template.Shipped.MybatisPlus

def application : List String := [
  "package ⟦⟦ packageName ⟧⟧;",
  "",
  "import org.mybatis.spring.annotation.MapperScan;",
  "import org.springframework.boot.SpringApplication;",
  "import org.springframework.boot.autoconfigure.SpringBootApplication;",
  "⟦%- if config.useCache %⟧",
  "import org.springframework.cache.annotation.EnableCaching;",
  "⟦%- endif %⟧",
  "",
  "⟦% if config.useCache %⟧@EnableCaching",
  "⟦% endif -%⟧",
  "@MapperScan(\"⟦⟦ packageName ⟧⟧.mapper\")",
  "@SpringBootApplication",
  "public class ⟦⟦ className ⟧⟧Application ⟦",
  "",
  "    public static void main(String[] args) ⟦",
  "        SpringApplication.run(⟦⟦ className ⟧⟧Application.class, args);",
  "    ⟧",
  "⟧",
  ""]

def entity : List String := [
  "⟦%- macro cap(name) %⟧⟦⟦ name[:1] | upper ⟧⟧⟦⟦ name[1:] ⟧⟧⟦% endmacro -%⟧",
  "package ⟦⟦ packageName ⟧⟧.entity;",
  "⟦% for imp in imports %⟧",
  "import ⟦⟦ imp ⟧⟧;",
  "⟦%- endfor %⟧",
  "⟦%- if config.useLombok %⟧",
  "import lombok.Data;",
  "⟦%- endif %⟧",
  "import com.baomidou.mybatisplus.annotation.IdType;",
  "import com.baomidou.mybatisplus.annotation.TableId;",
  "import com.baomidou.mybatisplus.annotation.TableName;",
  "",
  "/**",
  " * ⟦⟦ tableComment or tableName ⟧⟧",
  " */",
  "⟦% if config.useLombok %⟧@Data",
  "⟦% endif -%⟧",
  "⟦% if config.useApiDocs %⟧@Schema(description = \"⟦⟦ tableComment or tableName ⟧⟧\")",
  "⟦% endif -%⟧",
  "@TableName(\"⟦⟦ tableName ⟧⟧\")",
  "public class ⟦⟦ className ⟧⟧ ⟦",
  "⟦% for col in columns %⟧",
  "⟦%- if col.comment %⟧",
  "    /** ⟦⟦ col.comment ⟧⟧ */",
  "⟦%- endif %⟧",
  "⟦%- if config.useApiDocs %⟧",
  "    @Schema(description = \"⟦⟦ col.comment or col.columnName ⟧⟧\")",
  "⟦%- endif %⟧",
  "⟦%- if col.isPrimaryKey %⟧",
  "    @TableId(value = \"⟦⟦ col.columnName ⟧⟧\", type = IdType.AUTO)",
  "⟦%- endif %⟧",
  "⟦%- if config.useValidation and not col.isPrimaryKey %⟧",
  "⟦%- if not col.nullable %⟧",
  "    @NotNull",
  "⟦%- endif %⟧",
  "⟦%- if col.maxLength and col.mappedType == \"String\" %⟧",
  "    @Size(max = ⟦⟦ col.maxLength ⟧⟧)",
  "⟦%- endif %⟧",
  "⟦%- endif %⟧",
  "    private ⟦⟦ col.mappedType ⟧⟧ ⟦⟦ col.propertyName ⟧⟧;",
  "⟦% endfor %⟧",
  "⟦%- if not config.useLombok %⟧",
  "⟦%- for col in columns %⟧",
  "    public ⟦⟦ col.mappedType ⟧⟧ get⟦⟦ cap(col.propertyName) ⟧⟧() ⟦",
  "        return ⟦⟦ col.propertyName ⟧⟧;",
  "    ⟧",
  "",
  "    public void set⟦⟦ cap(col.propertyName) ⟧⟧(⟦⟦ col.mappedType ⟧⟧ ⟦⟦ col.propertyName ⟧⟧) ⟦",
  "        this.⟦⟦ col.propertyName ⟧⟧ = ⟦⟦ col.propertyName ⟧⟧;",
  "    ⟧",
  "⟦% endfor %⟧",
  "⟦%- endif -%⟧",
  "⟧",
  ""]

def mapper : List String := [
  "package ⟦⟦ packageName ⟧⟧.mapper;",
  "",
  "import com.baomidou.mybatisplus.core.mapper.BaseMapper;",
  "import org.apache.ibatis.annotations.Mapper;",
  "",
  "import ⟦⟦ packageName ⟧⟧.entity.⟦⟦ className ⟧⟧;",
  "",
  "/**",
  " * Data access for ⟦⟦ tableName ⟧⟧",
  " */",
  "@Mapper",
  "public interface ⟦⟦ className ⟧⟧Mapper extends BaseMapper<⟦⟦ className ⟧⟧> ⟦",
  "⟧",
  ""]

def serviceImpl : List String := [
  "package ⟦⟦ packageName ⟧⟧.service.impl;",
  "",
  "import java.util.List;",
  "",
  "import org.springframework.stereotype.Service;",
  "⟦%- if config.usePagination %⟧",
  "import com.baomidou.mybatisplus.extension.plugins.pagination.Page;",
  "⟦%- endif %⟧",
  "⟦%- if config.useCache %⟧",
  "import org.springframework.cache.annotation.CacheEvict;",
  "import org.springframework.cache.annotation.Cacheable;",
  "⟦%- endif %⟧",
  "",
  "import ⟦⟦ packageName ⟧⟧.entity.⟦⟦ className ⟧⟧;",
  "import ⟦⟦ packageName ⟧⟧.mapper.⟦⟦ className ⟧⟧Mapper;",
  "import ⟦⟦ packageName ⟧⟧.service.I⟦⟦ className ⟧⟧Service;",
  "",
  "@Service",
  "public class ⟦⟦ className ⟧⟧ServiceImpl implements I⟦⟦ className ⟧⟧Service ⟦",
  "",
  "    private final ⟦⟦ className ⟧⟧Mapper ⟦⟦ classNameUncap ⟧⟧Mapper;",
  "",
  "    public ⟦⟦ className ⟧⟧ServiceImpl(⟦⟦ className ⟧⟧Mapper ⟦⟦ classNameUncap ⟧⟧Mapper) ⟦",
  "        this.⟦⟦ classNameUncap ⟧⟧Mapper = ⟦⟦ classNameUncap ⟧⟧Mapper;",
  "    ⟧",
  "",
  "    @Override",
  "⟦%- if config.useCache %⟧",
  "    @Cacheable(value = \"⟦⟦ classNameUncap ⟧⟧\", key = \"#id\")",
  "⟦%- endif %⟧",
  "    public ⟦⟦ className ⟧⟧ getById(⟦⟦ primaryKeyType ⟧⟧ id) ⟦",
  "        return ⟦⟦ classNameUncap ⟧⟧Mapper.selectById(id);",
  "    ⟧",
  "",
  "    @Override",
  "    public List<⟦⟦ className ⟧⟧> list() ⟦",
  "        return ⟦⟦ classNameUncap ⟧⟧Mapper.selectList(null);",
  "    ⟧",
  "⟦%- if config.usePagination %⟧",
  "",
  "    @Override",
  "    public List<⟦⟦ className ⟧⟧> page(long page, long size) ⟦",
  "        return ⟦⟦ classNameUncap ⟧⟧Mapper.selectPage(new Page<>(page, size), null).getRecords();",
  "    ⟧",
  "",
  "    @Override",
  "    public long count() ⟦",
  "        return ⟦⟦ classNameUncap ⟧⟧Mapper.selectCount(null);",
  "    ⟧",
  "⟦%- endif %⟧",
  "",
  "    @Override",
  "    public ⟦⟦ className ⟧⟧ create(⟦⟦ className ⟧⟧ entity) ⟦",
  "        ⟦⟦ classNameUncap ⟧⟧Mapper.insert(entity);",
  "        return entity;",
  "    ⟧",
  "",
  "    @Override",
  "⟦%- if config.useCache %⟧",
  "    @CacheEvict(value = \"⟦⟦ classNameUncap ⟧⟧\", allEntries = true)",
  "⟦%- endif %⟧",
  "    public boolean update(⟦⟦ className ⟧⟧ entity) ⟦",
  "        return ⟦⟦ classNameUncap ⟧⟧Mapper.updateById(entity) > 0;",
  "    ⟧",
  "",
  "    @Override",
  "⟦%- if config.useCache %⟧",
  "    @CacheEvict(value = \"⟦⟦ classNameUncap ⟧⟧\", key = \"#id\")",
  "⟦%- endif %⟧",
  "    public boolean delete(⟦⟦ primaryKeyType ⟧⟧ id) ⟦",
  "        return ⟦⟦ classNameUncap ⟧⟧Mapper.deleteById(id) > 0;",
  "    ⟧",
  "⟧",
  ""]

end SchemaScaffold.Template.Shipped.MybatisPlus
